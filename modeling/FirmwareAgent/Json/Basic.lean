/-!
# JSON values

The values that records are read from and written to. A number written as an integer is kept apart
from one written with a fraction, since no field takes a fraction.

Values are read strictly: an integer must be written as one and lie in its range, and nothing is
converted. A record is given as an object or as the array of its fields in their fixed order.
`Json.slots` finds the fields in either form; unknown keys of an object are passed over.
-/

namespace FirmwareAgent

/-- A JSON value. -/
inductive Json
  | null
  | bool (value : Bool)
  | integer (value : Int)
  /-- A number with a fraction: the digits, and how many of them follow the point. -/
  | decimal (digits : Int) (places : Nat)
  | text (value : String)
  | array (elements : List Json)
  /-- Keys and values. No key occurs twice. -/
  | object (fields : List (String × Json))
  deriving Inhabited

namespace Json

/-- A natural number as a JSON value. -/
def ofNat (value : Nat) : Json :=
  .integer (Int.ofNat value)

/-! ## Reading values -/

/-- A natural number below a limit. -/
def natBelow? (limit : Nat) : Json → Option Nat
  | integer (.ofNat value) => if value < limit then some value else none
  | _ => none

/-- An 8-bit number. -/
def uint8? (json : Json) : Option UInt8 :=
  (json.natBelow? UInt8.size).map UInt8.ofNat

/-- A 16-bit number. -/
def uint16? (json : Json) : Option UInt16 :=
  (json.natBelow? UInt16.size).map UInt16.ofNat

/-- A 32-bit number. -/
def uint32? (json : Json) : Option UInt32 :=
  (json.natBelow? UInt32.size).map UInt32.ofNat

/-- A 64-bit number. -/
def uint64? (json : Json) : Option UInt64 :=
  (json.natBelow? UInt64.size).map UInt64.ofNat

/-- A count, which has 64 bits as well. -/
def count? (json : Json) : Option Nat :=
  json.natBelow? UInt64.size

/-- A truth value. -/
def bool? : Json → Option Bool
  | bool value => some value
  | _ => none

def text? : Json → Option String
  | text value => some value
  | _ => none

/-- An array whose elements can all be read. -/
def list? {α : Type} (read : Json → Option α) : Json → Option (List α)
  | array elements => elements.mapM read
  | _ => none

/-- A value that may be null. -/
def nullable? {α : Type} (read : Json → Option α) : Json → Option (Option α)
  | null => some none
  | json => (read json).map some

/-- The fields of a record: by their keys from an object, by their order from an array. An array may
leave out fields at its end, but must have `atLeast` of them, and none beyond the last. -/
def slots (keys : List String) (atLeast : Nat) : Json → Option (List (Option Json))
  | object fields => some (keys.map fun key => fields.lookup key)
  | array elements =>
    if atLeast ≤ elements.length ∧ elements.length ≤ keys.length then
      some (elements.map some ++ List.replicate (keys.length - elements.length) none)
    else none
  | _ => none

/-- Whether an object has no other keys than the given ones. -/
def hasOnly (keys : List String) : Json → Bool
  | object fields => fields.all fun (key, _) => keys.contains key
  | _ => true

/-- A field that must be there. -/
def required {α : Type} (read : Json → Option α) (slot : Option Json) : Option α :=
  slot.bind read

/-- A field with a default for when it is left out. -/
def optional {α : Type} (read : Json → Option α) (default : α) : Option Json → Option α
  | none => some default
  | some json => read json

end Json

end FirmwareAgent
