import FirmwareAgent.Json.Basic

/-!
# Reading values and records

What is read from a written value is the value. The fields of a record are found in the same way for
all records, so how a record may be spelled is settled once: the order of its keys and the keys
besides make no difference, and an array stands for the object with its elements under the keys in
their fixed order.

* `RoundTrip`: what is left of a value that is written and read, and that nothing more is lost when
  it is written and read again.
* `Spellings`: which JSON values a reader of records does not tell apart.
-/

namespace FirmwareAgent

namespace Json

variable {α : Type}

/-! ## Numbers and lists -/

theorem natBelow?_eq_some {limit value : Nat} {json : Json} :
    json.natBelow? limit = some value ↔ json = .ofNat value ∧ value < limit := by
  constructor
  · intro read
    unfold natBelow? at read
    split at read
    · split at read <;> cases read
      exact ⟨rfl, ‹_›⟩
    · cases read
  · rintro ⟨rfl, small⟩
    exact if_pos small

/-- A number of fixed width is read from its own written form only. -/
theorem map_natBelow?_eq_some {limit : Nat} {ofNat : Nat → α} {toNat : α → Nat}
    (small : ∀ value, toNat value < limit) (ofNat_toNat : ∀ value, ofNat (toNat value) = value)
    (toNat_ofNat : ∀ {number}, number < limit → toNat (ofNat number) = number) {json : Json}
    {value : α} : (json.natBelow? limit).map ofNat = some value ↔ json = .ofNat (toNat value) := by
  simp only [Option.map_eq_some_iff, natBelow?_eq_some]
  constructor
  · rintro ⟨number, ⟨rfl, fits⟩, rfl⟩
    rw [toNat_ofNat fits]
  · rintro rfl
    exact ⟨toNat value, ⟨rfl, small value⟩, ofNat_toNat value⟩

theorem uint8?_eq_some {json : Json} {value : UInt8} :
    json.uint8? = some value ↔ json = .ofNat value.toNat :=
  map_natBelow?_eq_some UInt8.toNat_lt (fun _ => UInt8.ofNat_toNat) UInt8.toNat_ofNat_of_lt'

theorem uint16?_eq_some {json : Json} {value : UInt16} :
    json.uint16? = some value ↔ json = .ofNat value.toNat :=
  map_natBelow?_eq_some UInt16.toNat_lt (fun _ => UInt16.ofNat_toNat) UInt16.toNat_ofNat_of_lt'

theorem uint32?_eq_some {json : Json} {value : UInt32} :
    json.uint32? = some value ↔ json = .ofNat value.toNat :=
  map_natBelow?_eq_some UInt32.toNat_lt (fun _ => UInt32.ofNat_toNat) UInt32.toNat_ofNat_of_lt'

theorem uint64?_eq_some {json : Json} {value : UInt64} :
    json.uint64? = some value ↔ json = .ofNat value.toNat :=
  map_natBelow?_eq_some UInt64.toNat_lt (fun _ => UInt64.ofNat_toNat) UInt64.toNat_ofNat_of_lt'

theorem count?_eq_some {json : Json} {value : Nat} :
    json.count? = some value ↔ json = .ofNat value ∧ value < UInt64.size :=
  natBelow?_eq_some

theorem bool?_eq_some {json : Json} {value : Bool} :
    json.bool? = some value ↔ json = .bool value := by
  cases json <;> simp [bool?]

@[simp] theorem uint8?_ofNat (value : UInt8) : uint8? (.ofNat value.toNat) = some value :=
  uint8?_eq_some.mpr rfl

@[simp] theorem uint16?_ofNat (value : UInt16) : uint16? (.ofNat value.toNat) = some value :=
  uint16?_eq_some.mpr rfl

@[simp] theorem uint32?_ofNat (value : UInt32) : uint32? (.ofNat value.toNat) = some value :=
  uint32?_eq_some.mpr rfl

@[simp] theorem uint64?_ofNat (value : UInt64) : uint64? (.ofNat value.toNat) = some value :=
  uint64?_eq_some.mpr rfl

@[simp] theorem bool?_bool (value : Bool) : bool? (.bool value) = some value := rfl

@[simp] theorem text?_text (value : String) : text? (.text value) = some value := rfl

/-- A list is read back if its elements are. -/
@[simp] theorem list?_map {read : Json → Option α} {write : α → Json}
    (back : ∀ value, read (write value) = some value) (values : List α) :
    list? read (.array (values.map write)) = some values := by
  rw [list?, List.mapM_map]
  simp only [Function.comp_def, back]
  exact List.mapM_pure.trans (congrArg some values.map_id)

/-! ## Fields -/

@[simp] theorem required_some (read : Json → Option α) (json : Json) :
    required read (some json) = read json := rfl

@[simp] theorem required_none (read : Json → Option α) : required read none = none := rfl

@[simp] theorem optional_some (read : Json → Option α) (default : α) (json : Json) :
    optional read default (some json) = read json := rfl

@[simp] theorem optional_none (read : Json → Option α) (default : α) :
    optional read default none = some default := rfl

/-- With distinct keys, what is found depends on what is there, not on where. -/
theorem lookup_perm {fields fields' : List (String × Json)} (reordered : fields.Perm fields')
    (distinct : (fields.map (·.1)).Nodup) (key : String) :
    fields.lookup key = fields'.lookup key := by
  induction reordered with
  | nil => rfl
  | cons field _ ih =>
    rw [List.lookup_cons, List.lookup_cons, ih (List.nodup_cons.mp distinct).2]
  | swap first second rest =>
    obtain ⟨first, one⟩ := first
    obtain ⟨second, two⟩ := second
    have apart : second ≠ first := by
      simp only [List.map_cons, List.nodup_cons, List.mem_cons, not_or] at distinct
      exact distinct.1.1
    by_cases found : key = first
    · have other : (key == second) = false := beq_eq_false_iff_ne.mpr (found ▸ apart.symm)
      simp only [List.lookup_cons, other]
    · have other : (key == first) = false := beq_eq_false_iff_ne.mpr found
      simp only [List.lookup_cons, other]
  | trans one _ ih ih' =>
    exact (ih distinct).trans (ih' ((one.map _).nodup_iff.mp distinct))

theorem lookup_append_others {fields others : List (String × Json)} {key : String}
    (foreign : ∀ field ∈ others, field.1 ≠ key) :
    (fields ++ others).lookup key = fields.lookup key := by
  have absent : others.lookup key = none := by
    rw [List.lookup_eq_none_iff]
    intro field member
    exact bne_iff_ne.mpr (foreign field member).symm
  rw [List.lookup_append, absent, Option.or_none]

/-- The elements of an array are found under the keys in their order. -/
theorem map_lookup_zip {keys : List String} (distinct : keys.Nodup) {elements : List Json}
    (short : elements.length ≤ keys.length) :
    keys.map (fun key => (keys.zip elements).lookup key) =
      elements.map some ++ List.replicate (keys.length - elements.length) none := by
  induction keys generalizing elements with
  | nil => simp [List.length_eq_zero_iff.mp (Nat.le_zero.mp short)]
  | cons key keys ih =>
    cases elements with
    | nil => simp [List.map_const', List.replicate_succ]
    | cons element elements =>
      obtain ⟨fresh, distinct⟩ := List.nodup_cons.mp distinct
      have further : keys.map (fun other => ((key, element) :: keys.zip elements).lookup other) =
          keys.map (fun other => (keys.zip elements).lookup other) := by
        refine List.map_congr_left fun other member => ?_
        have apart : (other == key) = false :=
          beq_eq_false_iff_ne.mpr fun same => fresh (same ▸ member)
        rw [List.lookup_cons, apart]
      rw [List.zip_cons_cons, List.map_cons, List.lookup_cons_self, further,
        ih distinct (Nat.le_of_succ_le_succ short)]
      simp

theorem slots_congr {keys : List String} {atLeast : Nat} {fields fields' : List (String × Json)}
    (same : ∀ key ∈ keys, fields.lookup key = fields'.lookup key) :
    (object fields).slots keys atLeast = (object fields').slots keys atLeast :=
  congrArg some (List.map_congr_left same)

theorem slots_array {keys : List String} {atLeast : Nat} (distinct : keys.Nodup)
    (elements : List Json) :
    (array elements).slots keys atLeast =
      if atLeast ≤ elements.length ∧ elements.length ≤ keys.length then
        (object (keys.zip elements)).slots keys atLeast
      else none := by
  simp only [slots]
  split
  case isTrue enough => rw [map_lookup_zip distinct enough.2]
  case isFalse => rfl

/-- An array that may leave out nothing has one element for each field. -/
theorem slots_array_eq_some {keys : List String} {elements : List Json}
    {fields : List (Option Json)} :
    (array elements).slots keys keys.length = some fields ↔
      elements.length = keys.length ∧ fields = elements.map some := by
  simp only [slots]
  constructor
  · intro found
    split at found
    case isTrue within =>
      have full : elements.length = keys.length := Nat.le_antisymm within.2 within.1
      rw [full, Nat.sub_self, List.replicate_zero, List.append_nil] at found
      exact ⟨full, (Option.some.inj found).symm⟩
    case isFalse => cases found
  · rintro ⟨full, rfl⟩
    simp [full]

/-! ## Records -/

theorem slots_shape {keys : List String} {atLeast : Nat} {json : Json} {fields : List (Option Json)}
    (found : json.slots keys atLeast = some fields) :
    (∃ fields, json = .object fields) ∨ ∃ elements, json = .array elements := by
  cases json with
  | object fields => exact .inl ⟨fields, rfl⟩
  | array elements => exact .inr ⟨elements, rfl⟩
  | _ => cases found

/-- How a record may be spelled, and which spellings are read alike. -/
structure Spellings (keys : List String) (atLeast : Nat) (defaults : List (String × Json))
    (read : Json → Option α) : Prop where
  /-- A record is an object or an array. -/
  shape : ∀ (json : Json) (value : α), read json = some value →
    (∃ fields, json = .object fields) ∨ ∃ elements, json = .array elements
  /-- The keys come in any order. -/
  reordered : ∀ fields fields' : List (String × Json), fields.Perm fields' →
    (fields.map (·.1)).Nodup → read (.object fields) = read (.object fields')
  /-- Other keys are passed over. -/
  extended : ∀ fields others : List (String × Json), (∀ field ∈ others, field.1 ∉ keys) →
    read (.object (fields ++ others)) = read (.object fields)
  /-- A key with a default may be left out. -/
  leftOut : ∀ entry ∈ defaults, ∀ fields : List (String × Json), fields.lookup entry.1 = none →
    read (.object fields) = read (.object (entry :: fields))
  /-- No other key may be. -/
  missing : ∀ key ∈ keys, key ∉ defaults.map (·.1) → ∀ fields : List (String × Json),
    fields.lookup key = none → read (.object fields) = none
  /-- An array has the fields in their order. -/
  listed : ∀ elements : List Json, read (.array elements) =
    if atLeast ≤ elements.length ∧ elements.length ≤ keys.length then
      read (.object (keys.zip elements))
    else none

/-- A record that is read from its fields is spelled as its fields are found. -/
theorem Spellings.of_slots {keys : List String} {atLeast : Nat} {defaults : List (String × Json)}
    {read : Json → Option α} {build : List (Option Json) → Option α} (distinct : keys.Nodup)
    (read_eq : ∀ json, read json = (json.slots keys atLeast).bind build)
    (leftOut : ∀ entry ∈ defaults, ∀ fields : List (String × Json), fields.lookup entry.1 = none →
      read (.object fields) = read (.object (entry :: fields)))
    (missing : ∀ key ∈ keys, key ∉ defaults.map (·.1) → ∀ fields : List (String × Json),
      fields.lookup key = none → read (.object fields) = none) :
    Spellings keys atLeast defaults read where
  shape json value accept := by
    rw [read_eq] at accept
    obtain ⟨fields, found, _⟩ := Option.bind_eq_some_iff.mp accept
    exact slots_shape found
  reordered _ _ reordered distinct := by
    rw [read_eq, read_eq, slots_congr fun key _ => lookup_perm reordered distinct key]
  extended fields others foreign := by
    have same : ∀ key ∈ keys, (fields ++ others).lookup key = fields.lookup key :=
      fun key member => lookup_append_others fun field listed same =>
        foreign field listed (same ▸ member)
    rw [read_eq, read_eq, slots_congr same]
  leftOut := leftOut
  missing := missing
  listed elements := by
    rw [read_eq, slots_array distinct, read_eq]
    split <;> rfl

/-- How a type comes through being written and read. -/
structure RoundTrip (write : α → Json) (read : Json → Option α) (IsValue : α → Prop)
    (kept : α → α) : Prop where
  /-- What is read from a written value is what is kept of it. -/
  written : ∀ value, IsValue value → read (write value) = some (kept value)
  /-- However a value was spelled, it is the same value with the same JSON from then on. -/
  settled : ∀ json value, read json = some value →
    ∃ again, read (write value) = some again ∧ again = value ∧ write again = write value

/-- If all is kept of what was read once, writing it loses nothing more. -/
theorem RoundTrip.of_accepted {write : α → Json} {read : Json → Option α} {IsValue : α → Prop}
    {kept : α → α} (written : ∀ value, IsValue value → read (write value) = some (kept value))
    (accepted : ∀ json value, read json = some value → IsValue value ∧ kept value = value) :
    RoundTrip write read IsValue kept where
  written := written
  settled json value accept := by
    obtain ⟨isValue, all⟩ := accepted json value accept
    refine ⟨value, ?_, rfl, rfl⟩
    rw [written value isValue, all]

/-- A type of which everything is kept. -/
theorem RoundTrip.lossless {write : α → Json} {read : Json → Option α}
    (written : ∀ value, read (write value) = some value) :
    RoundTrip write read (fun _ => True) id :=
  .of_accepted (fun value _ => written value) fun _ _ _ => ⟨trivial, rfl⟩

end Json

end FirmwareAgent
