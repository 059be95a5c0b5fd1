import HouseGate.Utf8Text

namespace HouseGate.JsonDocument

open DecimalText Utf8Text

/-!
# JSON documents of program records

Durable records are written as JSON objects.  This module keeps the document
tree between the writer and the reader of a file: the writer turns record
fields into a tree, the reader turns a tree back into fields.  The field rules
are those of a typed JSON codec.  Texts are coerced to UTF-8 when they are
written, a missing field and an explicit `null` both leave the zero value, an
absent slice is `null` while an empty one is `[]`, and a number outside the
range of its field is an error.
-/

/-- A JSON value; an object keeps the order of its members. -/
inductive Json where
  | null
  | bool (value : Bool)
  | number (value : Int)
  | text (value : Bytes)
  | array (items : List Json)
  | object (fields : List (String × Json))

/-- The field of an object; a missing field reads as `null`. -/
def Json.field (name : String) : Json → Json
  | .object fields => (fields.reverse.find? (fun entry => entry.1 == name)).elim .null Prod.snd
  | _ => .null

def Json.isObject : Json → Bool
  | .object _ => true
  | _ => false

/-- No field outside the listed ones. -/
def Json.onlyFields (names : List String) : Json → Bool
  | .object fields => fields.all (fun entry => names.contains entry.1)
  | _ => true

def encodeUint (value : Nat) : Json := .number value

/-- Read an unsigned integer below a bound; `null` keeps the zero value. -/
def decodeUint (bound : Nat) : Json → Option Nat
  | .null => some 0
  | .number value =>
    if 0 ≤ value ∧ value < bound then some value.toNat else none
  | _ => none

def encodeInt (value : Int) : Json := .number value

/-- Read a signed integer of the given magnitude. -/
def decodeInt (magnitude : Nat) : Json → Option Int
  | .null => some 0
  | .number value =>
    if -(magnitude : Int) ≤ value ∧ value < magnitude then some value else none
  | _ => none

def encodeBool (value : Bool) : Json := .bool value

def decodeBool : Json → Option Bool
  | .null => some false
  | .bool value => some value
  | _ => none

/-- Texts are written as valid UTF-8. -/
def encodeText (value : Bytes) : Json := .text (coerce value)

def decodeText : Json → Option Bytes
  | .null => some []
  | .text value => some value
  | _ => none

/-- A slice; `none` is the absent slice. -/
def encodeSlice (encode : α → Json) : Option (List α) → Json
  | none => .null
  | some items => .array (items.map encode)

def decodeSlice (decode : Json → Option α) : Json → Option (Option (List α))
  | .null => some none
  | .array items => (items.mapM decode).map some
  | _ => none

@[simp] theorem decodeUint_encodeUint {bound value : Nat} (small : value < bound) :
    decodeUint bound (encodeUint value) = some value := by
  simp [encodeUint, decodeUint, small]

@[simp] theorem decodeInt_encodeInt
    {magnitude : Nat}
    {value : Int}
    (low : -(magnitude : Int) ≤ value)
    (high : value < magnitude) :
    decodeInt magnitude (encodeInt value) = some value := by
  simp [encodeInt, decodeInt, low, high]

@[simp] theorem decodeBool_encodeBool (value : Bool) : decodeBool (encodeBool value) = some value :=
  rfl

@[simp] theorem decodeText_encodeText (value : Bytes) :
    decodeText (encodeText value) = some (coerce value) :=
  rfl

variable {encode : α → Json} {decode : Json → Option β} {image : α → β}

theorem mapM_decode_map_encode
    {items : List α} (roundTrip : ∀ item ∈ items, decode (encode item) = some (image item)) :
    (items.map encode).mapM decode = some (items.map image) := by
  induction items with
  | nil => rfl
  | cons item rest inductionHypothesis =>
    have head := roundTrip item (by simp)
    have tail := inductionHypothesis (fun later member => roundTrip later (by simp [member]))
    simp [head, tail]

/-- A slice whose elements are read back is read back, absent or not. -/
theorem decodeSlice_encodeSlice {items : Option (List α)}
    (roundTrip : ∀ list ∈ items, ∀ item ∈ list, decode (encode item) = some (image item)) :
    decodeSlice decode (encodeSlice encode items) = some (items.map (List.map image)) := by
  cases items with
  | none => rfl
  | some list =>
    have inner := mapM_decode_map_encode (roundTrip list rfl)
    simp [encodeSlice, decodeSlice, inner]

end HouseGate.JsonDocument
