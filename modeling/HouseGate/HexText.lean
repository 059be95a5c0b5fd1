import HouseGate.DecimalText

namespace HouseGate.HexText

open DecimalText

/-!
# Hexadecimal text

Bytes are written as two lowercase digits each, the high half first.  The
reader takes digits of both cases and refuses a text of odd length or with any
other byte; it undoes the writer.
-/

/-- The digit of a half byte. -/
def hexDigit (half : Nat) : UInt8 :=
  if half < 10 then UInt8.ofNat (48 + half) else UInt8.ofNat (87 + half)

def hexValue? (digit : UInt8) : Option Nat :=
  if 48 ≤ digit.toNat ∧ digit.toNat ≤ 57 then
    some (digit.toNat - 48)
  else if 97 ≤ digit.toNat ∧ digit.toNat ≤ 102 then
    some (digit.toNat - 87)
  else if 65 ≤ digit.toNat ∧ digit.toNat ≤ 70 then
    some (digit.toNat - 55)
  else
    none

def encodeHex (bytes : Bytes) : Bytes :=
  bytes.flatMap fun byte =>
    [hexDigit (byte.toNat / 16), hexDigit (byte.toNat % 16)]

def decodeHex : Bytes → Option Bytes
  | [] => some []
  | [_] => none
  | high :: low :: rest => do
      let highValue ← hexValue? high
      let lowValue ← hexValue? low
      let decoded ← decodeHex rest
      return UInt8.ofNat (16 * highValue + lowValue) :: decoded

theorem hexValue?_hexDigit {half : Nat} (small : half < 16) :
    hexValue? (hexDigit half) = some half := by
  interval_cases half <;> rfl

@[simp] theorem decodeHex_encodeHex (bytes : Bytes) : decodeHex (encodeHex bytes) = some bytes := by
  induction bytes with
  | nil => rfl
  | cons byte rest inductionHypothesis =>
    have byteSmall : byte.toNat < 256 := byte.toNat_lt
    have high := hexValue?_hexDigit (show byte.toNat / 16 < 16 by omega)
    have low := hexValue?_hexDigit (show byte.toNat % 16 < 16 by omega)
    have rebuilt : UInt8.ofNat (16 * (byte.toNat / 16) + byte.toNat % 16) = byte := by
      rw [Nat.div_add_mod]
      exact UInt8.ofNat_toNat
    simp only [encodeHex, List.flatMap_cons, List.cons_append,
      List.nil_append] at inductionHypothesis ⊢
    simp only [decodeHex, high, low, inductionHypothesis]
    exact congrArg (fun head => some (head :: rest)) rebuilt

end HouseGate.HexText
