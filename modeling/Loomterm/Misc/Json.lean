import Mathlib.Algebra.Order.Ring.Int
import Mathlib.Data.List.Basic
import Mathlib.Tactic.Common

/-!
# JSON values

Values, how records are read from their fields, and what becomes of a record when every
text of its value is rewritten. `Decodes` states that for a decoder: the rewritten record
if the texts that name a variant are unchanged, and otherwise nothing. It composes along
the fields of a record, over lists and over options.
-/

namespace Loomterm

/-- A JSON value; a number is an integer or the bits of a float. -/
inductive Json where
  | null
  | bool (value : Bool)
  | number (value : Int)
  | float (bits : UInt64)
  | string (text : String)
  | array (values : List Json)
  | object (fields : List (String × Json))

namespace Json

def asStr : Json → Option String
  | .string text => some text
  | _ => none

def asArray : Json → Option (List Json)
  | .array values => some values
  | _ => none

def asBool : Json → Option Bool
  | .bool value => some value
  | _ => none

def asInt : Json → Option Int
  | .number value => some value
  | _ => none

def asNat : Json → Option Nat
  | .number (.ofNat value) => some value
  | _ => none

mutual

/-- Rewrites every text of a value; the keys of objects stay. -/
def mapStrings (f : String → String) : Json → Json
  | .string text => .string (f text)
  | .array values => .array (mapValues f values)
  | .object fields => .object (mapFields f fields)
  | other => other

def mapValues (f : String → String) : List Json → List Json
  | [] => []
  | value :: rest => mapStrings f value :: mapValues f rest

def mapFields (f : String → String) : List (String × Json) → List (String × Json)
  | [] => []
  | (key, value) :: rest => (key, mapStrings f value) :: mapFields f rest

end

@[simp] theorem mapStrings_string (f : String → String) (text : String) :
    mapStrings f (.string text) = .string (f text) := by
  rw [mapStrings]

@[simp] theorem mapStrings_null (f : String → String) : mapStrings f .null = .null := by
  rw [mapStrings] <;> simp

@[simp] theorem mapStrings_number (f : String → String) (value : Int) :
    mapStrings f (.number value) = .number value := by
  rw [mapStrings] <;> simp

@[simp] theorem mapStrings_bool (f : String → String) (value : Bool) :
    mapStrings f (.bool value) = .bool value := by
  rw [mapStrings] <;> simp

theorem mapValues_eq (f : String → String) (values : List Json) :
    mapValues f values = values.map (mapStrings f) := by
  induction values with
  | nil => rfl
  | cons value rest ih => rw [mapValues, ih, List.map_cons]

/-! ## Encoding -/

/-- An option that is always written. -/
def ofOption {α : Type} (encode : α → Json) : Option α → Json
  | none => .null
  | some value => encode value

/-- An option whose field is left out when there is nothing in it. -/
def optionField {α : Type} (key : String) (encode : α → Json) :
    Option α → List (String × Json)
  | none => []
  | some value => [(key, encode value)]

def natural (value : Nat) : Json := .number value

def strings (values : List String) : Json := .array (values.map .string)

/-! ## Decoding -/

/-- The first field of that name. -/
def field (key : String) : List (String × Json) → Option Json
  | [] => none
  | (name, value) :: rest => if name = key then some value else field key rest

def asObject : Json → Option (List (String × Json))
  | .object fields => some fields
  | _ => none

section

variable {α β : Type}

/-- A field that has to be there. -/
def required (fields : List (String × Json)) (key : String) (decode : Json → Option α) :
    Option α :=
  (field key fields).bind decode

/-- A value, or null for none. -/
def nullable (decode : Json → Option α) : Json → Option (Option α)
  | .null => some none
  | value => (decode value).map some

theorem nullable_eq (decode : Json → Option α) {value : Json} (present : value ≠ .null) :
    nullable decode value = (decode value).map some := by
  rw [nullable]
  exact present

/-- A field that may be missing or null. -/
def omittable (fields : List (String × Json)) (key : String) (decode : Json → Option α) :
    Option (Option α) :=
  match field key fields with
  | none => some none
  | some value => nullable decode value

/-- A field with a default. -/
def defaulted (fields : List (String × Json)) (key : String) (decode : Json → Option α)
    (default : α) : Option α :=
  match field key fields with
  | none => some default
  | some value => decode value

def listOf (decode : Json → Option α) (value : Json) : Option (List α) :=
  value.asArray.bind fun values => values.mapM decode

/-- What a name stands for. -/
def oneOf (names : List (String × α)) (name : String) : Option α :=
  (names.find? fun entry => entry.1 = name).map Prod.snd

def named (names : List (String × α)) (value : Json) : Option α :=
  value.asStr.bind (oneOf names)

section

variable (f : String → String)

theorem field_mapFields (key : String) (fields : List (String × Json)) :
    field key (mapFields f fields) = (field key fields).map (mapStrings f) := by
  induction fields with
  | nil => rfl
  | cons entry rest ih =>
    obtain ⟨name, value⟩ := entry
    by_cases found : name = key
    · simp [mapFields, field, found]
    · simpa [mapFields, field, found] using ih

@[simp] theorem asStr_string (text : String) : asStr (string text) = some text := rfl

@[simp] theorem mapStrings_natural (value : Nat) :
    (natural value).mapStrings f = natural value :=
  mapStrings_number f value

end

/-! ## Rewriting and decoding -/

/-- What is decoded after the texts were rewritten by `f`: the record, unless `f` changed a
tag. -/
def Decodes (f : String → String) (tags : List String) (decoded : Option α) (record : α) :
    Prop :=
  decoded = if ∀ tag ∈ tags, f tag = tag then some record else none

variable {f : String → String}

theorem decodes_some (record : α) : Decodes f [] (some record) record := by
  simp [Decodes]

theorem Decodes.eq_some {decoded : Option α} {record : α} (read : Decodes f [] decoded record) :
    decoded = some record := by
  simpa [Decodes] using read

theorem Decodes.bind {tags others : List String} {decoded : Option α} {record : α}
    {next : α → Option β} {result : β} (first : Decodes f tags decoded record)
    (rest : Decodes f others (next record) result) :
    Decodes f (tags ++ others) (decoded >>= next) result := by
  unfold Decodes at first rest ⊢
  by_cases same : ∀ tag ∈ tags, f tag = tag
  · have both : (∀ tag ∈ tags ++ others, f tag = tag) ↔ ∀ tag ∈ others, f tag = tag := by
      simp only [List.mem_append]
      exact ⟨fun all tag member => all tag (.inr member),
        fun all tag member => member.elim (same tag) (all tag)⟩
    rw [if_pos same] at first
    simp only [first, both]
    exact rest
  · have changed : ¬ ∀ tag ∈ tags ++ others, f tag = tag :=
      fun all => same fun tag member => all tag (List.mem_append_left _ member)
    rw [if_neg same] at first
    rw [first, if_neg changed]
    rfl

theorem Decodes.map {tags : List String} {decoded : Option α} {record : α}
    (read : Decodes f tags decoded record) (g : α → β) :
    Decodes f tags (decoded.map g) (g record) := by
  unfold Decodes at read ⊢
  rw [read]
  split <;> rfl

/-- A name among others; rewritten, it is none of them. -/
theorem decodes_oneOf {names : List (String × α)} {name : String} {value : α}
    (known : oneOf names name = some value)
    (apart : f name ≠ name → ∀ entry ∈ names, entry.1 ≠ f name) :
    Decodes f [name] (oneOf names (f name)) value := by
  unfold Decodes
  by_cases same : f name = name
  · simp [same, known]
  · have missing : (names.find? fun entry => entry.1 = f name) = none := by
      simpa using apart same
    simp [same, oneOf, missing]

/-- The tags as a set. -/
theorem Decodes.of_tags {tags others : List String} {decoded : Option α} {record : α}
    (read : Decodes f tags decoded record) (same : ∀ tag, tag ∈ others ↔ tag ∈ tags) :
    Decodes f others decoded record := by
  simpa only [Decodes, same] using read

/-! ### Plain values -/

theorem decodes_string (text : String) :
    Decodes f [] (asStr ((string text).mapStrings f)) (f text) := by
  rw [mapStrings_string]
  exact decodes_some (f text)

theorem decodes_bool (value : Bool) :
    Decodes f [] (asBool ((bool value).mapStrings f)) value := by
  rw [mapStrings_bool]
  exact decodes_some value

/-! ### Lists and options -/

/-- A list of records, each of which decodes. -/
theorem decodes_listOf {records : List α} {decode : Json → Option β} {encode : α → Json}
    {tags : α → List String} {rewrite : α → β}
    (each : ∀ record ∈ records,
      Decodes f (tags record) (decode ((encode record).mapStrings f)) (rewrite record)) :
    Decodes f (records.flatMap tags)
      (listOf decode ((Json.array (records.map encode)).mapStrings f))
      (records.map rewrite) := by
  have items : Decodes f (records.flatMap tags)
      ((records.map fun record => (encode record).mapStrings f).mapM decode)
      (records.map rewrite) := by
    induction records with
    | nil => exact decodes_some []
    | cons record rest ih =>
      have first := each record (by simp)
      have others := ih fun record member => each record (by simp [member])
      rw [List.map_cons, List.mapM_cons, List.flatMap_cons]
      refine first.bind ?_
      have consed := others.map fun results => rewrite record :: results
      rw [Option.map_eq_bind] at consed
      exact consed
  simpa [listOf, asArray, mapStrings, mapValues_eq, Function.comp_def] using items

theorem decodes_strings (texts : List String) :
    Decodes f [] (listOf asStr ((strings texts).mapStrings f)) (texts.map f) := by
  have each : ∀ text ∈ texts, Decodes f [] (asStr ((string text).mapStrings f)) (f text) :=
    fun text _ => decodes_string text
  exact (decodes_listOf each).of_tags (by simp)

/-- An option, written as null when there is nothing in it. -/
theorem decodes_nullable {decode : Json → Option β} {encode : α → Json}
    {tags : α → List String} {rewrite : α → β} (record : Option α)
    (present : ∀ value, (encode value).mapStrings f ≠ .null)
    (each : ∀ value, record = some value →
      Decodes f (tags value) (decode ((encode value).mapStrings f)) (rewrite value)) :
    Decodes f (record.toList.flatMap tags)
      (nullable decode ((ofOption encode record).mapStrings f)) (record.map rewrite) := by
  cases record with
  | none =>
    rw [ofOption, mapStrings_null]
    exact decodes_some none
  | some value =>
    have read := (each value rfl).map some
    simpa [ofOption, nullable_eq decode (present value)] using read

theorem decodes_nullable_string (text : Option String) :
    Decodes f [] (nullable asStr ((ofOption string text).mapStrings f)) (text.map f) :=
  (decodes_nullable text (by simp) fun value _ => decodes_string value).of_tags (by simp)

/-! ### Fields -/

section

variable {fields : List (String × Json)} {key : String} {value : Json}
  {tags others : List String} {record : α} {next : α → Option β} {result : β}

theorem Decodes.object {next : List (String × Json) → Option β}
    (rest : Decodes f tags (next (mapFields f fields)) result) :
    Decodes f tags (asObject ((object fields).mapStrings f) >>= next) result := by
  rw [mapStrings]
  exact rest

theorem Decodes.required_tags {decode : Json → Option α}
    (found : field key fields = some value)
    (read : Decodes f tags (decode (value.mapStrings f)) record)
    (rest : Decodes f others (next record) result) :
    Decodes f (tags ++ others) (required (mapFields f fields) key decode >>= next) result := by
  have there : Json.required (mapFields f fields) key decode = decode (value.mapStrings f) := by
    rw [Json.required, field_mapFields, found]
    rfl
  rw [there]
  exact read.bind rest

theorem Decodes.required {decode : Json → Option α} (found : field key fields = some value)
    (read : Decodes f [] (decode (value.mapStrings f)) record)
    (rest : Decodes f others (next record) result) :
    Decodes f others (required (mapFields f fields) key decode >>= next) result :=
  Decodes.required_tags found read rest

theorem Decodes.defaulted {decode : Json → Option α} {default : α}
    (found : field key fields = some value)
    (read : Decodes f tags (decode (value.mapStrings f)) record)
    (rest : Decodes f others (next record) result) :
    Decodes f (tags ++ others)
      (defaulted (mapFields f fields) key decode default >>= next) result := by
  have there : Json.defaulted (mapFields f fields) key decode default =
      decode (value.mapStrings f) := by
    rw [Json.defaulted, field_mapFields, found]
    rfl
  rw [there]
  exact read.bind rest

end

section

variable {fields : List (String × Json)} {key : String} {value : Json}
  {tags others : List String} {record : Option α} {next : Option α → Option β} {result : β}
  {decode : Json → Option α}

theorem Decodes.omittable_tags (found : field key fields = some value)
    (read : Decodes f tags (nullable decode (value.mapStrings f)) record)
    (rest : Decodes f others (next record) result) :
    Decodes f (tags ++ others)
      (omittable (mapFields f fields) key decode >>= next) result := by
  have there : Json.omittable (mapFields f fields) key decode =
      nullable decode (value.mapStrings f) := by
    rw [Json.omittable, field_mapFields, found]
    rfl
  rw [there]
  exact read.bind rest

theorem Decodes.omittable (found : field key fields = some value)
    (read : Decodes f [] (nullable decode (value.mapStrings f)) record)
    (rest : Decodes f others (next record) result) :
    Decodes f others (omittable (mapFields f fields) key decode >>= next) result :=
  Decodes.omittable_tags found read rest

/-- A field that is left out when there is nothing in it. -/
theorem Decodes.omitted {γ : Type} {encode : γ → Json} {rewrite : γ → α} {source : Option γ}
    (found : field key fields = source.map encode)
    (present : ∀ value, (encode value).mapStrings f ≠ .null)
    (each : ∀ value, source = some value →
      Decodes f [] (decode ((encode value).mapStrings f)) (rewrite value))
    (rest : Decodes f others (next (source.map rewrite)) result) :
    Decodes f others (Json.omittable (mapFields f fields) key decode >>= next) result := by
  have there : Json.omittable (mapFields f fields) key decode = some (source.map rewrite) := by
    cases source with
    | none =>
      rw [Json.omittable, field_mapFields, found]
      rfl
    | some value =>
      have read := (each value rfl).eq_some
      rw [Json.omittable, field_mapFields, found]
      simp [nullable_eq decode (present value), read]
  rw [there]
  exact rest

end

end

end Json

end Loomterm
