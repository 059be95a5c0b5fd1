import Mathlib.Data.UInt
import Mathlib.Algebra.Group.Pi.Basic
import HouseGate.AsciiText
import HouseGate.HexText
import HouseGate.KeyedSort

namespace HouseGate.LtHash

open DecimalText AsciiText HexText KeyedSort List UInt8

/-!
# The lattice hash of rows

An accumulator is 1024 lanes of 16 bits that are added lane by lane with
wrap-around.  A row is framed into one element, the element is expanded to an
accumulator, and a set of rows is the sum of its elements.  The accumulator
itself, written as hexadecimal text, is what manifests hold.
-/

def lanes : Nat := 1024

abbrev Hash := Fin lanes → UInt16

/-- The bytes of one lane, the low byte first. -/
def laneBytes (lane : UInt16) : Bytes := [ofNat (lane.toNat % 256), ofNat (lane.toNat / 256)]

variable (accumulator : Hash)

def bytes : Bytes := (ofFn accumulator).flatMap laneBytes

/-- One lane of a serialized accumulator. -/
def laneAt (serialized : Bytes) (index : Nat) : UInt16 := UInt16.ofNat
    ((serialized.getD (2 * index) 0).toNat + 256 * (serialized.getD (2 * index + 1) 0).toNat)

def fromBytes (serialized : Bytes) : Option Hash :=
  if serialized.length ≠ 2 * lanes then none else some (fun index => laneAt serialized index)

/-- `0x` and the lowercase digits of the whole accumulator. -/
def lthashHex : Bytes := ascii "0x" ++ encodeHex (bytes accumulator)

/-- `strings.TrimPrefix` of `0x`. -/
def trimHexPrefix (text : Bytes) : Bytes :=
  if (ascii "0x").isPrefixOf text then text.drop 2 else text

def lthashFromHex (text : Bytes) : Option Hash := do
  let serialized ← decodeHex (trimHexPrefix text)
  fromBytes serialized

theorem laneAt_laneBytes (lane : UInt16) (rest : Bytes) :
    laneAt (laneBytes lane ++ rest) 0 = lane := by
  have laneSmall : lane.toNat < 65536 := lane.toNat_lt
  have low : (ofNat (lane.toNat % 256)).toNat = lane.toNat % 256 := by
    rw [toNat_ofNat']
    omega
  have high : (ofNat (lane.toNat / 256)).toNat = lane.toNat / 256 := by
    rw [toNat_ofNat']
    omega
  simp only [laneAt, laneBytes, cons_append, Nat.mul_zero,
    Nat.zero_add, getD_cons_zero, getD_cons_succ, low, high]
  rw [Nat.mod_add_div]
  exact UInt16.ofNat_toNat

/-- A lane is read back at its own place. -/
theorem laneAt_flatMap
    (values : List UInt16)
    (index : Nat)
    (inside : index < values.length) :
    laneAt (values.flatMap laneBytes) index = values[index] := by
  induction values generalizing index with
  | nil => cases inside
  | cons lane rest inductionHypothesis =>
    cases index with
    | zero => exact laneAt_laneBytes lane _
    | succ earlier =>
      have tail := inductionHypothesis earlier (by simpa using inside)
      rw [getElem_cons_succ, ← tail]
      rfl

@[simp] theorem length_bytes : (bytes accumulator).length = 2 * lanes := by
  have eachTwo : ∀ values : List UInt16, (values.flatMap laneBytes).length = 2 * values.length := by
    intro values
    induction values with
    | nil => rfl
    | cons lane rest inductionHypothesis =>
      simp only [flatMap_cons, length_append, inductionHypothesis, length_cons]
      simp only [laneBytes, length_cons, length_nil]
      omega
  simp [bytes, eachTwo]

@[simp] theorem fromBytes_bytes : fromBytes (bytes accumulator) = some accumulator := by
  simp only [fromBytes, length_bytes, ne_eq, not_true_eq_false, if_false, Option.some.injEq]
  funext index
  have inside : index.val < (ofFn accumulator).length := by
    simp
  have read := laneAt_flatMap (ofFn accumulator) index.val inside
  simpa [bytes] using read

@[simp] theorem trimHexPrefix_append (text : Bytes) : trimHexPrefix (ascii "0x" ++ text) = text :=
  rfl

@[simp] theorem lthashFromHex_lthashHex :
    lthashFromHex (lthashHex accumulator) = some accumulator := by
  simp [lthashFromHex, lthashHex]

/-- A column: its name and its declared type. -/
structure Column where
  name : Bytes
  type : Bytes

/-- Four bytes of a length, the low byte first. -/
def littleEndian32 (number : Nat) : Bytes :=
  [ofNat (number % 256), ofNat (number / 256 % 256), ofNat (number / 65536 % 256),
    ofNat (number / 16777216 % 256)]

def appendFramed (written field : Bytes) : Bytes := written ++ littleEndian32 field.length ++ field

/-- The profile that tags every row element. -/
def canonicalDomain : Bytes := ascii "housegate-row-mvp-v0"

variable (encodeValue : Column → α → Option Bytes)

/-- One column of a row, framed after what is written already. -/
def appendColumn (written : Bytes) (cell : Column × α) : Option Bytes := do
  let value ← encodeValue cell.1 cell.2
  return appendFramed (appendFramed (appendFramed written cell.1.name) cell.1.type) value

/-- The element of a row, its columns in the order of their names. -/
def encodeRow (table : Bytes) (columns : List Column) (values : List α) : Option Bytes :=
  if columns.length ≠ values.length then
    none
  else
    let cells := sortBy (fun cell => textKey cell.1.name) (columns.zip values)
    let start :=
      appendFramed (appendFramed [] canonicalDomain) table ++ littleEndian32 columns.length
    cells.foldlM (appendColumn encodeValue) start

end HouseGate.LtHash
