import Mathlib.Data.List.Basic
import Mathlib.Tactic.Ring

namespace HouseGate.LittleEndian

/-!
# Fixed-width numbers, low byte first

Writing a number in a given count of bytes keeps it modulo the width, and every
byte string of that count is the writing of the number it reads as.
-/

/-- The given number of bytes of a number, the low byte first. -/
def littleEndian : Nat → Nat → List UInt8
  | 0, _ => []
  | count + 1, number => UInt8.ofNat (number % 256) :: littleEndian count (number / 256)

def ofLittleEndian : List UInt8 → Nat
  | [] => 0
  | byte :: rest => byte.toNat + 256 * ofLittleEndian rest

@[simp] theorem length_littleEndian (count number : Nat) :
    (littleEndian count number).length = count := by
  induction count generalizing number with
  | zero => rfl
  | succ count inductionHypothesis => simp [littleEndian, inductionHypothesis]

theorem ofLittleEndian_littleEndian (count number : Nat) :
    ofLittleEndian (littleEndian count number) = number % 256 ^ count := by
  induction count generalizing number with
  | zero => simp [littleEndian, ofLittleEndian, Nat.mod_one]
  | succ count inductionHypothesis =>
    have low : (UInt8.ofNat (number % 256)).toNat = number % 256 := by
      rw [UInt8.toNat_ofNat']
      omega
    rw [littleEndian, ofLittleEndian, inductionHypothesis, low, pow_succ', Nat.mod_mul]

theorem ofLittleEndian_of_lt {count number : Nat} (small : number < 256 ^ count) :
    ofLittleEndian (littleEndian count number) = number := by
  rw [ofLittleEndian_littleEndian, Nat.mod_eq_of_lt small]

theorem littleEndian_ofLittleEndian (bytes : List UInt8) :
    littleEndian bytes.length (ofLittleEndian bytes) = bytes := by
  induction bytes with
  | nil => rfl
  | cons byte rest inductionHypothesis =>
    have small := byte.toNat_lt
    have low : (byte.toNat + 256 * ofLittleEndian rest) % 256 = byte.toNat := by
      omega
    have high : (byte.toNat + 256 * ofLittleEndian rest) / 256 = ofLittleEndian rest := by
      omega
    rw [List.length_cons, ofLittleEndian, littleEndian, low, high,
      inductionHypothesis, UInt8.ofNat_toNat]

theorem ofLittleEndian_lt (bytes : List UInt8) : ofLittleEndian bytes < 256 ^ bytes.length := by
  induction bytes with
  | nil => simp [ofLittleEndian]
  | cons byte rest inductionHypothesis =>
    have small := byte.toNat_lt
    rw [ofLittleEndian, List.length_cons, pow_succ']
    omega

end HouseGate.LittleEndian
