import HouseGate.DecimalText

namespace HouseGate.Utf8Text

open DecimalText List

/-!
# UTF-8 validity and replacement

A program string is an arbitrary byte sequence, while a text codec transports
Unicode text only.  `coerce` is the documented behaviour of such a codec on a
byte string: every byte that does not start a well-formed encoding is replaced
by the three bytes of U+FFFD.  A byte string survives the codec exactly when it
is valid UTF-8.
-/

/-- A continuation byte `10xxxxxx`. -/
def isContinuation (byte : UInt8) : Bool := 0x80 ≤ byte.toNat && byte.toNat ≤ 0xBF

/-- A byte between two bounds, both included. -/
def isBetween (low high : Nat) (byte : UInt8) : Bool := low ≤ byte.toNat && byte.toNat ≤ high

/--
Bounds of the second byte for every leading byte of a multi-byte encoding,
together with the number of continuation bytes after it.  The tightened bounds
exclude overlong forms, surrogates and values above U+10FFFF.
-/
def leadingShape? (leading : UInt8) : Option (Nat × Nat × Nat) :=
  if isBetween 0xC2 0xDF leading then some (0x80, 0xBF, 0)
  else if leading == 0xE0 then some (0xA0, 0xBF, 1)
  else if leading == 0xED then some (0x80, 0x9F, 1)
  else if isBetween 0xE1 0xEF leading then some (0x80, 0xBF, 1)
  else if leading == 0xF0 then some (0x90, 0xBF, 2)
  else if isBetween 0xF1 0xF3 leading then some (0x80, 0xBF, 2)
  else if leading == 0xF4 then some (0x80, 0x8F, 2)
  else none

/-- Number of bytes after the first one in the encoding at the head. -/
def trailingCount? : Bytes → Option Nat
  | [] => none
  | leading :: rest =>
    if leading.toNat < 0x80 then
      some 0
    else
      match leadingShape? leading, rest with
      | some (low, high, more), second :: tail =>
        if isBetween low high second && (tail.take more).length == more &&
            (tail.take more).all isContinuation then
          some (more + 1)
        else
          none
      | _, _ => none

/-- The UTF-8 encoding of U+FFFD. -/
def replacement : Bytes := [0xEF, 0xBF, 0xBD]

/--
Replace invalid bytes.  The counter is the number of bytes of the current
well-formed encoding that are still to be copied.
-/
def coerceFrom : Nat → Bytes → Bytes
  | _, [] => []
  | copying + 1, byte :: rest => byte :: coerceFrom copying rest
  | 0, byte :: rest =>
    match trailingCount? (byte :: rest) with
    | some trailing => byte :: coerceFrom trailing rest
    | none => replacement ++ coerceFrom 0 rest

/-- What a text codec transports for a byte string. -/
def coerce (text : Bytes) : Bytes := coerceFrom 0 text

/-- The validity scan that accepts exactly what `coerceFrom` copies. -/
def validFrom : Nat → Bytes → Bool
  | _, [] => true
  | copying + 1, _ :: rest => validFrom copying rest
  | 0, byte :: rest =>
    match trailingCount? (byte :: rest) with
    | some trailing => validFrom trailing rest
    | none => false

/-- Valid UTF-8. -/
def isValid (text : Bytes) : Bool := validFrom 0 text

theorem length_le_length_coerceFrom (copying : Nat) (text : Bytes) :
    text.length ≤ (coerceFrom copying text).length := by
  induction text generalizing copying with
  | nil => simp
  | cons byte rest inductionHypothesis =>
    cases copying with
    | succ copying => simpa [coerceFrom] using inductionHypothesis copying
    | zero =>
      unfold coerceFrom
      split
      · rename_i trailing _
        simpa using inductionHypothesis trailing
      · have shorter := inductionHypothesis 0
        simp only [length_cons, length_append, replacement, length_nil]
        omega

/-- A scan copies its input exactly when it meets no invalid byte. -/
theorem coerceFrom_eq_self_iff (copying : Nat) (text : Bytes) :
    coerceFrom copying text = text ↔ validFrom copying text = true := by
  induction text generalizing copying with
  | nil => cases copying <;> simp [coerceFrom, validFrom]
  | cons byte rest inductionHypothesis =>
    cases copying with
    | succ copying => simp [coerceFrom, validFrom, inductionHypothesis]
    | zero =>
      unfold coerceFrom validFrom
      split
      · simp [inductionHypothesis]
      -- An invalid byte grows the text, so equality is impossible.
      have shorter := length_le_length_coerceFrom 0 rest
      constructor
      · intro same
        have lengths := congrArg length same
        simp only [length_append, replacement, length_cons, length_nil] at lengths
        omega
      · intro impossible
        cases impossible

/-- A byte string survives a text codec exactly when it is valid UTF-8. -/
theorem coerce_eq_self_iff {text : Bytes} : coerce text = text ↔ isValid text = true :=
  coerceFrom_eq_self_iff 0 text

/-- ASCII text is valid UTF-8. -/
theorem isValid_of_ascii {text : Bytes} (ascii : ∀ byte ∈ text, byte.toNat < 0x80) :
    isValid text = true := by
  unfold isValid
  induction text with
  | nil => rfl
  | cons byte rest inductionHypothesis =>
    have headAscii : byte.toNat < 0x80 := ascii byte (by simp)
    have tailValid := inductionHypothesis (fun later member => ascii later (by simp [member]))
    simp [validFrom, trailingCount?, headAscii, tailValid]

/-- ASCII text is transported unchanged. -/
theorem coerce_of_ascii {text : Bytes} (ascii : ∀ byte ∈ text, byte.toNat < 0x80) :
    coerce text = text :=
  coerce_eq_self_iff.mpr (isValid_of_ascii ascii)

example : coerce [0x61, 0xFF, 0xC3, 0xA9] = [0x61, 0xEF, 0xBF, 0xBD, 0xC3, 0xA9] := by
  decide

/-! ## White space -/

/-- The encodings of the runes that Unicode calls white space. -/
def spaceRunes : List Bytes := [[9], [10], [11], [12], [13], [32], [0xC2, 0x85], [0xC2, 0xA0],
    [0xE1, 0x9A, 0x80], [0xE2, 0x80, 0x80], [0xE2, 0x80, 0x81],
    [0xE2, 0x80, 0x82], [0xE2, 0x80, 0x83], [0xE2, 0x80, 0x84],
    [0xE2, 0x80, 0x85], [0xE2, 0x80, 0x86], [0xE2, 0x80, 0x87],
    [0xE2, 0x80, 0x88], [0xE2, 0x80, 0x89], [0xE2, 0x80, 0x8A],
    [0xE2, 0x80, 0xA8], [0xE2, 0x80, 0xA9], [0xE2, 0x80, 0xAF],
    [0xE2, 0x81, 0x9F], [0xE3, 0x80, 0x80]]

/-- Drop the given encodings from the front, at most so many times. -/
def dropRunes (runes : List Bytes) : Nat → Bytes → Bytes
  | 0, text => text
  | count + 1, text =>
    match runes.find? fun rune => rune.isPrefixOf text with
    | none => text
    | some rune => dropRunes runes count (text.drop rune.length)

/-- Remove white space at both ends of a text. -/
def trimUnicodeSpace (text : Bytes) : Bytes :=
  let front := dropRunes spaceRunes text.length text
  (dropRunes (spaceRunes.map reverse) front.length front.reverse).reverse

example : trimUnicodeSpace [32, 0xC2, 0xA0, 97, 32, 98, 9] = [97, 32, 98] := by
  decide

section Ends

variable {accepts : UInt8 → Bool} {text : Bytes}

theorem dropRunes_of_head
    {runes : List Bytes} (apart : runes.all fun rune => rune.head?.any (!accepts ·))
    (first : text.head?.any accepts) (count : Nat) :
    dropRunes runes count text = text := by
  cases count with
  | zero => rfl
  | succ count =>
    have absent : runes.find? (·.isPrefixOf text) = none := by
      rw [find?_eq_none]
      intro rune member leads
      have other := all_eq_true.mp apart rune member
      rw [ isPrefixOf_iff_prefix] at leads
      obtain ⟨rest, rfl⟩ := leads
      cases rune with
      | nil => simp at other
      | cons byte tail => simp_all
    simp only [dropRunes, absent]

/-- A text keeps ends that no white space starts or ends with. -/
theorem trimUnicodeSpace_of_ends (noFront : spaceRunes.all fun rune => rune.head?.any (!accepts ·))
    (noBack : (spaceRunes.map reverse).all
      fun rune => rune.head?.any (!accepts ·))
    (first : text.head?.any accepts) (last : text.getLast?.any accepts) :
    trimUnicodeSpace text = text := by
  have lastFirst : text.reverse.head?.any accepts := by
    simpa using last
  simp only [trimUnicodeSpace, dropRunes_of_head noFront first,
    dropRunes_of_head noBack lastFirst, reverse_reverse]

end Ends

end HouseGate.Utf8Text
