import Loomterm.Misc.Json

/-!
# Codecs

A codec writes values as JSON and reads them back. The fields of an object are read by their
names, whatever stands beside them, so that field codecs with different names can be put side by
side, and the fields of one record can be written among those of another. A tagged union is
written with a field that names the variant.

The readers of the integers refuse what their types do not hold.
-/

namespace Loomterm

namespace Json

/-- How values are written and read. What is written is read back, if it is `valid`, and is never
null; nothing else is read. -/
structure Codec (α : Type) where
  valid : α → Prop
  encode : α → Json
  decode : Json → Option α
  present : ∀ a, encode a ≠ .null
  read_back : ∀ a, valid a → decode (encode a) = some a
  accepted : ∀ value a, decode value = some a → valid a

/-- The fields of some names: no others are written, and what is read depends on them alone. -/
structure FieldCodec (α : Type) where
  keys : List String
  valid : α → Prop
  encode : α → List (String × Json)
  decode : List (String × Json) → Option α
  written : ∀ a key, field key (encode a) ≠ none → key ∈ keys
  read_back : ∀ a, valid a → ∀ fields,
    (∀ key ∈ keys, field key fields = field key (encode a)) → decode fields = some a
  accepted : ∀ fields a, decode fields = some a → valid a

variable {α β : Type}

theorem field_append (key : String) (left right : List (String × Json)) :
    field key (left ++ right) = (field key left).or (field key right) := by
  induction left with
  | nil => rfl
  | cons entry rest ih =>
    obtain ⟨name, value⟩ := entry
    by_cases same : name = key <;> simp [field, same, ih]

theorem field_singleton_ne_none {key name : String} {value : Json}
    (there : field key [(name, value)] ≠ none) : key ∈ [name] := by
  by_cases same : name = key
  · exact List.mem_singleton.mpr same.symm
  · simp [field, same] at there

/-! ## Values -/

namespace Codec

def string : Codec String where
  valid _ := True
  encode := .string
  decode := asStr
  present _ := Json.noConfusion
  read_back _ _ := rfl
  accepted _ _ _ := trivial

def bool : Codec Bool where
  valid _ := True
  encode := .bool
  decode := asBool
  present _ := Json.noConfusion
  read_back _ _ := rfl
  accepted _ _ _ := trivial

/-- Values all of which are read back. -/
def total (encode : α → Json) (decode : Json → Option α) (present : ∀ a, encode a ≠ .null)
    (read_back : ∀ a, decode (encode a) = some a) : Codec α where
  valid _ := True
  encode := encode
  decode := decode
  present := present
  read_back a _ := read_back a
  accepted _ _ _ := trivial

/-- A natural number below the bound. -/
def readBelow (bound : Nat) (value : Json) : Option Nat :=
  value.asNat.filter fun n => n < bound

theorem readBelow_natural {bound n : Nat} (below : n < bound) :
    readBelow bound (natural n) = some n := by
  have read : (natural n).asNat = some n := rfl
  rw [readBelow, read]
  simp [below]

theorem lt_of_readBelow {bound n : Nat} {value : Json} (read : readBelow bound value = some n) :
    n < bound :=
  of_decide_eq_true (Option.filter_eq_some_iff.mp read).2

/-- `u16`, `u32`, `u64` or `usize`, by its bound. -/
def below (bound : Nat) : Codec Nat where
  valid n := n < bound
  encode := natural
  decode := readBelow bound
  present _ := Json.noConfusion
  read_back _ := readBelow_natural
  accepted _ _ := lt_of_readBelow

/-- A signed number whose magnitude is below the bound, or is the bound and negative. -/
def readWithin (bound : Int) (value : Json) : Option Int :=
  value.asInt.filter fun i => -bound ≤ i ∧ i < bound

theorem readWithin_number {bound i : Int} (within : -bound ≤ i ∧ i < bound) :
    readWithin bound (.number i) = some i := by
  have read : (Json.number i).asInt = some i := rfl
  rw [readWithin, read]
  simp [within]

theorem of_readWithin {bound i : Int} {value : Json} (read : readWithin bound value = some i) :
    -bound ≤ i ∧ i < bound :=
  of_decide_eq_true (Option.filter_eq_some_iff.mp read).2

/-- `i32` or `i64`, by its bound. -/
def within (bound : Int) : Codec Int where
  valid i := -bound ≤ i ∧ i < bound
  encode := .number
  decode := readWithin bound
  present _ := Json.noConfusion
  read_back _ := readWithin_number
  accepted _ _ := of_readWithin

section

variable {f : String → String}

theorem decodes_below {bound n : Nat} (small : n < bound) :
    Decodes f [] ((below bound).decode ((natural n).mapStrings f)) n := by
  rw [mapStrings_natural, show (below bound).decode (natural n) = some n from
    readBelow_natural small]
  exact decodes_some n

theorem decodes_within {bound i : Int} (small : -bound ≤ i ∧ i < bound) :
    Decodes f [] ((within bound).decode ((number i).mapStrings f)) i := by
  rw [mapStrings_number, show (within bound).decode (.number i) = some i from
    readWithin_number small]
  exact decodes_some i

theorem decodes_nullable_below {bound : Nat} {n : Option Nat}
    (small : ∀ value, n = some value → value < bound) :
    Decodes f [] (nullable (below bound).decode ((ofOption natural n).mapStrings f)) n := by
  have read := decodes_nullable (f := f) n (by simp [natural])
    fun value there => decodes_below (small value there)
  exact Decodes.of_tags (by simpa using read) (by simp)

theorem decodes_nullable_within {bound : Int} {i : Option Int}
    (small : ∀ value, i = some value → -bound ≤ value ∧ value < bound) :
    Decodes f [] (nullable (within bound).decode ((ofOption number i).mapStrings f)) i := by
  have read := decodes_nullable (f := f) i (by simp)
    fun value there => decodes_within (small value there)
  exact Decodes.of_tags (by simpa using read) (by simp)

end

theorem named_string {names : List (String × α)} {text : α → String}
    (known : ∀ a, oneOf names (text a) = some a) (a : α) :
    named names (.string (text a)) = some a :=
  known a

/-- An enumeration whose variants are written as their names. -/
def enumeration (names : List (String × α)) (text : α → String)
    (known : ∀ a, oneOf names (text a) = some a) : Codec α where
  valid _ := True
  encode a := .string (text a)
  decode := named names
  present _ := Json.noConfusion
  read_back a _ := named_string known a
  accepted _ _ _ := trivial

theorem mapM_encode (codec : Codec α) {values : List α} (valid : ∀ a ∈ values, codec.valid a) :
    (values.map codec.encode).mapM codec.decode = some values := by
  induction values with
  | nil => rfl
  | cons a rest ih =>
    have first := codec.read_back a (valid a List.mem_cons_self)
    have others := ih fun b member => valid b (List.mem_cons_of_mem a member)
    rw [List.map_cons, List.mapM_cons, first, others]
    rfl

theorem listOf_array (codec : Codec α) (values : List α)
    (valid : ∀ a ∈ values, codec.valid a) :
    Json.listOf codec.decode (.array (values.map codec.encode)) = some values :=
  mapM_encode codec valid

theorem listOf_accepted (codec : Codec α) (value : Json) (values : List α)
    (read : Json.listOf codec.decode value = some values) : ∀ a ∈ values, codec.valid a := by
  obtain ⟨items, array, decoded⟩ := Option.bind_eq_some_iff.mp read
  clear read array
  induction items generalizing values with
  | nil =>
    cases decoded
    exact List.forall_mem_nil _
  | cons item rest ih =>
    rw [List.mapM_cons] at decoded
    obtain ⟨first, here, others⟩ := Option.bind_eq_some_iff.mp decoded
    obtain ⟨tail, there, whole⟩ := Option.bind_eq_some_iff.mp others
    cases whole
    exact List.forall_mem_cons.mpr ⟨codec.accepted item first here, ih tail there⟩

/-- A `Vec`. -/
def list (codec : Codec α) : Codec (List α) where
  valid values := ∀ a ∈ values, codec.valid a
  encode values := .array (values.map codec.encode)
  decode := Json.listOf codec.decode
  present _ := Json.noConfusion
  read_back := listOf_array codec
  accepted := listOf_accepted codec

end Codec

/-! ## Fields -/

namespace FieldCodec

theorem required_read (key : String) (codec : Codec α) (a : α) (valid : codec.valid a)
    (fields : List (String × Json))
    (same : ∀ name ∈ [key], field name fields = field name [(key, codec.encode a)]) :
    Json.required fields key codec.decode = some a := by
  rw [Json.required, same key List.mem_cons_self]
  simp [field, codec.read_back a valid]

theorem required_accepted (key : String) (codec : Codec α) (fields : List (String × Json)) (a : α)
    (read : Json.required fields key codec.decode = some a) : codec.valid a := by
  obtain ⟨value, _, decoded⟩ := Option.bind_eq_some_iff.mp read
  exact codec.accepted value a decoded

def required (key : String) (codec : Codec α) : FieldCodec α where
  keys := [key]
  valid := codec.valid
  encode a := [(key, codec.encode a)]
  decode fields := Json.required fields key codec.decode
  written _ _ := field_singleton_ne_none
  read_back := required_read key codec
  accepted := required_accepted key codec

theorem defaulted_read (key : String) (codec : Codec α) (default a : α) (valid : codec.valid a)
    (fields : List (String × Json))
    (same : ∀ name ∈ [key], field name fields = field name [(key, codec.encode a)]) :
    Json.defaulted fields key codec.decode default = some a := by
  rw [Json.defaulted, same key List.mem_cons_self]
  simp [field, codec.read_back a valid]

theorem defaulted_accepted (key : String) (codec : Codec α) (default : α)
    (plain : codec.valid default) (fields : List (String × Json)) (a : α)
    (read : Json.defaulted fields key codec.decode default = some a) : codec.valid a := by
  unfold Json.defaulted at read
  cases there : field key fields with
  | none =>
    rw [there] at read
    cases read
    exact plain
  | some value =>
    rw [there] at read
    exact codec.accepted value a read

/-- `#[serde(default)]`: the field is always written, and may be missing. -/
def defaulted (key : String) (codec : Codec α) (default : α) (plain : codec.valid default) :
    FieldCodec α where
  keys := [key]
  valid := codec.valid
  encode a := [(key, codec.encode a)]
  decode fields := Json.defaulted fields key codec.decode default
  written _ _ := field_singleton_ne_none
  read_back := defaulted_read key codec default
  accepted := defaulted_accepted key codec default plain

theorem nullable_some (codec : Codec α) (a : α) (valid : codec.valid a) :
    nullable codec.decode (codec.encode a) = some (some a) := by
  rw [nullable_eq _ (codec.present a), codec.read_back a valid]
  rfl

theorem nullable_read (key : String) (codec : Codec α) (a : Option α)
    (valid : ∀ value, a = some value → codec.valid value) (fields : List (String × Json))
    (same : ∀ name ∈ [key], field name fields = field name [(key, ofOption codec.encode a)]) :
    omittable fields key codec.decode = some a := by
  rw [omittable, same key List.mem_cons_self]
  cases a with
  | none => simp [field, ofOption, nullable]
  | some value => simp [field, ofOption, nullable_some codec value (valid value rfl)]

theorem omittable_accepted (key : String) (codec : Codec α) (fields : List (String × Json))
    (a : Option α) (read : omittable fields key codec.decode = some a) (value : α)
    (present : a = some value) : codec.valid value := by
  subst present
  unfold omittable at read
  cases there : field key fields with
  | none =>
    rw [there] at read
    cases read
  | some entry =>
    rw [there] at read
    by_cases empty : entry = .null
    · rw [empty] at read
      cases read
    · have decoded : (codec.decode entry).map some = some (some value) := by
        rw [← nullable_eq codec.decode empty]
        exact read
      obtain ⟨inside, here, same⟩ := Option.map_eq_some_iff.mp decoded
      cases same
      exact codec.accepted entry value here

/-- An option, which is written as null when there is nothing in it. -/
def optional (key : String) (codec : Codec α) : FieldCodec (Option α) where
  keys := [key]
  valid a := ∀ value, a = some value → codec.valid value
  encode a := [(key, ofOption codec.encode a)]
  decode fields := omittable fields key codec.decode
  written _ _ := field_singleton_ne_none
  read_back := nullable_read key codec
  accepted := omittable_accepted key codec

theorem omitted_written (key : String) (codec : Codec α) (a : Option α) (name : String)
    (there : field name (optionField key codec.encode a) ≠ none) : name ∈ [key] := by
  cases a with
  | none => exact absurd rfl there
  | some value => exact field_singleton_ne_none there

theorem omitted_read (key : String) (codec : Codec α) (a : Option α)
    (valid : ∀ value, a = some value → codec.valid value) (fields : List (String × Json))
    (same : ∀ name ∈ [key], field name fields = field name (optionField key codec.encode a)) :
    omittable fields key codec.decode = some a := by
  rw [omittable, same key List.mem_cons_self]
  cases a with
  | none => rfl
  | some value => simp [field, optionField, nullable_some codec value (valid value rfl)]

/-- `skip_serializing_if = "Option::is_none"`: an option that is left out when there is nothing
in it. -/
def omitted (key : String) (codec : Codec α) : FieldCodec (Option α) where
  keys := [key]
  valid a := ∀ value, a = some value → codec.valid value
  encode := optionField key codec.encode
  decode fields := omittable fields key codec.decode
  written := omitted_written key codec
  read_back := omitted_read key codec
  accepted := omittable_accepted key codec

theorem none_written (key : String) (there : field key [] ≠ none) : key ∈ ([] : List String) :=
  absurd rfl there

/-- No fields. -/
def none : FieldCodec Unit where
  keys := []
  valid _ := True
  encode _ := []
  decode _ := some ()
  written _ := none_written
  read_back _ _ _ _ := rfl
  accepted _ _ _ := trivial

/-- Whether no name is in both lists. -/
def apart (left right : List String) : Bool := left.all fun key => !right.contains key

theorem not_mem_of_apart {left right : List String} (different : apart left right = true)
    {key : String} (member : key ∈ left) : key ∉ right := by
  have there := List.all_eq_true.mp different key member
  simpa using there

section

variable (left : FieldCodec α) (right : FieldCodec β)

theorem and_written (a : α × β) (key : String)
    (there : field key (left.encode a.1 ++ right.encode a.2) ≠ Option.none) :
    key ∈ left.keys ++ right.keys := by
  rw [field_append] at there
  by_cases first : field key (left.encode a.1) = Option.none
  · rw [first, Option.none_or] at there
    exact List.mem_append_right _ (right.written a.2 key there)
  · exact List.mem_append_left _ (left.written a.1 key first)

theorem and_read (different : apart left.keys right.keys = true) (a : α × β)
    (valid : left.valid a.1 ∧ right.valid a.2) (fields : List (String × Json))
    (same : ∀ key ∈ left.keys ++ right.keys,
      field key fields = field key (left.encode a.1 ++ right.encode a.2)) :
    ((left.decode fields).bind fun x => (right.decode fields).map fun y => (x, y)) = some a := by
  have first : left.decode fields = some a.1 := by
    apply left.read_back a.1 valid.1
    intro key member
    have other : field key (right.encode a.2) = Option.none := by
      by_contra there
      exact not_mem_of_apart different member (right.written a.2 key there)
    rw [same key (List.mem_append_left _ member), field_append, other, Option.or_none]
  have second : right.decode fields = some a.2 := by
    apply right.read_back a.2 valid.2
    intro key member
    have other : field key (left.encode a.1) = Option.none := by
      by_contra there
      exact not_mem_of_apart different (left.written a.1 key there) member
    rw [same key (List.mem_append_right _ member), field_append, other, Option.none_or]
  rw [first, second]
  rfl

theorem and_accepted (fields : List (String × Json)) (a : α × β)
    (read : ((left.decode fields).bind fun x => (right.decode fields).map fun y => (x, y)) =
      some a) : left.valid a.1 ∧ right.valid a.2 := by
  obtain ⟨x, first, rest⟩ := Option.bind_eq_some_iff.mp read
  obtain ⟨y, second, whole⟩ := Option.map_eq_some_iff.mp rest
  cases whole
  exact ⟨left.accepted fields x first, right.accepted fields y second⟩

/-- Fields of other names beside the fields. -/
def and (different : apart left.keys right.keys = true) : FieldCodec (α × β) where
  keys := left.keys ++ right.keys
  valid a := left.valid a.1 ∧ right.valid a.2
  encode a := left.encode a.1 ++ right.encode a.2
  decode fields := (left.decode fields).bind fun x => (right.decode fields).map fun y => (x, y)
  written := and_written left right
  read_back := and_read left right different
  accepted := and_accepted left right

theorem map_read (make : α → β) (take : β → α) (made : ∀ b, make (take b) = b) (b : β)
    (valid : left.valid (take b)) (fields : List (String × Json))
    (same : ∀ key ∈ left.keys, field key fields = field key (left.encode (take b))) :
    (left.decode fields).map make = some b := by
  rw [left.read_back (take b) valid fields same, Option.map_some, made]

theorem map_accepted (make : α → β) (take : β → α) (taken : ∀ a, take (make a) = a)
    (fields : List (String × Json)) (b : β) (read : (left.decode fields).map make = some b) :
    left.valid (take b) := by
  obtain ⟨a, decoded, rfl⟩ := Option.map_eq_some_iff.mp read
  rw [taken]
  exact left.accepted fields a decoded

/-- A record with these fields. -/
def map (make : α → β) (take : β → α) (made : ∀ b, make (take b) = b)
    (taken : ∀ a, take (make a) = a) : FieldCodec β where
  keys := left.keys
  valid b := left.valid (take b)
  encode b := left.encode (take b)
  decode fields := (left.decode fields).map make
  written b := left.written (take b)
  read_back := map_read left make take made
  accepted := map_accepted left make take taken

theorem object_accepted (value : Json) (a : α) (read : value.asObject.bind left.decode = some a) :
    left.valid a := by
  obtain ⟨fields, _, decoded⟩ := Option.bind_eq_some_iff.mp read
  exact left.accepted fields a decoded

/-- The fields as an object. -/
def object : Codec α where
  valid := left.valid
  encode a := .object (left.encode a)
  decode value := value.asObject.bind left.decode
  present _ := Json.noConfusion
  read_back a valid := left.read_back a valid (left.encode a) fun _ _ => rfl
  accepted := object_accepted left

end

/-! ## Tagged unions -/

/-- A variant of a union: its name, its fields, and what they make. -/
structure Variant (α : Type) where
  name : String
  γ : Type
  fields : FieldCodec γ
  make : γ → α

/-- A value as a variant makes it. -/
structure Chosen (α : Type) where
  variant : Variant α
  payload : variant.γ

namespace Chosen

def value (chosen : Chosen α) : α := chosen.variant.make chosen.payload

/-- The fields of the variant, behind the tag. -/
def write (tag : String) (chosen : Chosen α) : List (String × Json) :=
  (tag, .string chosen.variant.name) :: chosen.variant.fields.encode chosen.payload

end Chosen

def Variant.read (fields : List (String × Json)) (variant : Variant α) : String × Option α :=
  (variant.name, (variant.fields.decode fields).map variant.make)

section

variable (tag : String) (variants : List (Variant α)) (choose : α → Chosen α)

/-- The variant that the tag names. -/
def readUnion (fields : List (String × Json)) : Option α := do
  let name ← Json.required fields tag asStr
  let read ← oneOf (variants.map (Variant.read fields)) name
  read

def unionKeys : List String := tag :: variants.flatMap fun variant => variant.fields.keys

/-- What a union is to keep to: the names of its variants are different, and none of them has a
field of the name of the tag. -/
def proper : Bool :=
  (variants.map Variant.name).Nodup && variants.all fun variant => !variant.fields.keys.contains tag

variable {tag variants choose}

theorem union_written (member : ∀ a, (choose a).variant ∈ variants) (a : α) (key : String)
    (there : field key ((choose a).write tag) ≠ Option.none) : key ∈ unionKeys tag variants := by
  by_cases same : tag = key
  · exact List.mem_cons.mpr (.inl same.symm)
  · rw [Chosen.write, field, if_neg same] at there
    refine List.mem_cons_of_mem _ (List.mem_flatMap.mpr ⟨_, member a, ?_⟩)
    exact (choose a).variant.fields.written (choose a).payload key there

theorem oneOf_read {fields : List (String × Json)}
    (nodup : (variants.map Variant.name).Nodup) {variant : Variant α} (member : variant ∈ variants) :
    oneOf (variants.map (Variant.read fields)) variant.name =
      some ((variant.fields.decode fields).map variant.make) := by
  induction variants with
  | nil => cases member
  | cons first rest ih =>
    obtain ⟨fresh, distinct⟩ := List.nodup_cons.mp nodup
    unfold oneOf
    rw [List.map_cons]
    by_cases same : first.name = variant.name
    · have first_eq : first = variant := by
        rcases List.mem_cons.mp member with rfl | later
        · rfl
        · exact absurd (same ▸ List.mem_map_of_mem later) fresh
      subst first_eq
      rw [List.find?_cons_of_pos (by simp [Variant.read])]
      rfl
    · rcases List.mem_cons.mp member with rfl | later
      · exact absurd rfl same
      · have passed : decide ((first.read fields).1 = variant.name) = false := decide_eq_false same
        rw [List.find?_cons, passed]
        exact ih distinct later

theorem union_read (proper : proper tag variants = true)
    (member : ∀ a, (choose a).variant ∈ variants) (made : ∀ a, (choose a).value = a) (a : α)
    (valid : (choose a).variant.fields.valid (choose a).payload) (fields : List (String × Json))
    (same : ∀ key ∈ unionKeys tag variants,
      field key fields = field key ((choose a).write tag)) :
    readUnion tag variants fields = some a := by
  obtain ⟨nodup, untagged⟩ := Bool.and_eq_true_iff.mp proper
  have name : Json.required fields tag asStr = some (choose a).variant.name := by
    rw [Json.required, same tag List.mem_cons_self, Chosen.write, field, if_pos rfl]
    rfl
  have payload : (choose a).variant.fields.decode fields = some (choose a).payload := by
    apply (choose a).variant.fields.read_back _ valid
    intro key own
    have different : tag ≠ key := by
      rintro rfl
      have apart := List.all_eq_true.mp untagged _ (member a)
      simp [own] at apart
    rw [same key (List.mem_cons_of_mem _ (List.mem_flatMap.mpr ⟨_, member a, own⟩)), Chosen.write,
      field, if_neg different]
  unfold readUnion
  rw [name]
  show (oneOf (variants.map (Variant.read fields)) (choose a).variant.name >>= fun read => read) =
    some a
  rw [oneOf_read (of_decide_eq_true nodup) (member a), payload]
  exact congrArg some (made a)

theorem union_accepted
    (chosen : ∀ variant ∈ variants, ∀ payload, choose (variant.make payload) = ⟨variant, payload⟩)
    (fields : List (String × Json)) (a : α) (read : readUnion tag variants fields = some a) :
    (choose a).variant.fields.valid (choose a).payload := by
  obtain ⟨name, _, rest⟩ := Option.bind_eq_some_iff.mp read
  obtain ⟨decoded, named, whole⟩ := Option.bind_eq_some_iff.mp rest
  obtain ⟨entry, found, rfl⟩ := Option.map_eq_some_iff.mp named
  obtain ⟨variant, member, rfl⟩ := List.mem_map.mp (List.mem_of_find?_eq_some found)
  obtain ⟨payload, here, rfl⟩ := Option.map_eq_some_iff.mp whole
  rw [chosen variant member payload]
  exact variant.fields.accepted fields payload here

variable (tag variants choose) in
/-- An internally tagged union: `tag` names the variant, beside its fields. -/
def union (proper : proper tag variants = true) (member : ∀ a, (choose a).variant ∈ variants)
    (made : ∀ a, (choose a).value = a)
    (chosen : ∀ variant ∈ variants, ∀ payload,
      choose (variant.make payload) = ⟨variant, payload⟩) : FieldCodec α where
  keys := unionKeys tag variants
  valid a := (choose a).variant.fields.valid (choose a).payload
  encode a := (choose a).write tag
  decode := readUnion tag variants
  written := union_written member
  read_back := union_read proper member made
  accepted := union_accepted chosen

end

end FieldCodec

end Json

/-! ## The integers of the code -/

def u16 : Json.Codec Nat := .below (2 ^ 16)

def u32 : Json.Codec Nat := .below (2 ^ 32)

/-- `u64`, and `usize` where it has 64 bits. -/
def u64 : Json.Codec Nat := .below (2 ^ 64)

theorem u64_zero : u64.valid 0 := Nat.two_pow_pos 64

def i32 : Json.Codec Int := .within (2 ^ 31)

def i64 : Json.Codec Int := .within (2 ^ 63)

end Loomterm
