import Mathlib.Data.Nat.Digits.Lemmas

namespace HouseGate.DecimalText

open List Nat

/-!
# Decimal texts of unsigned counters

Durable counters are stored as decimal text followed by a line feed.  This
module gives the text of a number, the strict reader of such a text and the
removal of surrounding blanks, and proves that reading back what was written
returns the number.  Nothing here refers to a particular counter.
-/

/-- Raw file or message contents. -/
abbrev Bytes := List UInt8

/-- The one proof that all tests for membership of a text refer to. -/
instance : LawfulBEq Bytes := inferInstance

/-- What is true of each of the 256 bytes is true of every byte. -/
theorem forall_byte
    {p : UInt8 → Prop}
    (each : ∀ value : Fin 256, p (UInt8.ofFin value))
    (byte : UInt8) :
    p byte :=
  each byte.toFin

/-- The number of values of an unsigned 64-bit integer. -/
def uint64Size : Nat := 2 ^ 64

/-- The greatest unsigned 64-bit integer. -/
def maxUint64 : Nat := uint64Size - 1

/-- The ASCII byte of one decimal digit. -/
def digitByte (digit : Nat) : UInt8 := UInt8.ofNat (48 + digit)

/-- The value of an ASCII decimal digit, if the byte is one. -/
def digitValue? (byte : UInt8) : Option Nat :=
  if 48 ≤ byte.toNat ∧ byte.toNat ≤ 57 then some (byte.toNat - 48) else none

/-- Decimal text of a number without leading zeros. -/
def formatUint (number : Nat) : Bytes :=
  if number = 0 then [digitByte 0] else (digits 10 number).reverse.map digitByte

/-- Read digits most significant first, starting from an accumulator. -/
def digitsValue? : Nat → Bytes → Option Nat
  | accumulated, [] => some accumulated
  | accumulated, byte :: rest =>
    match digitValue? byte with
    | none => none
    | some digit => digitsValue? (10 * accumulated + digit) rest

/-- Read a nonempty decimal text whose value fits 64 bits. -/
def parseUint (text : Bytes) : Option Nat :=
  if text = [] then
    none
  else
    match digitsValue? 0 text with
    | none => none
    | some number =>
      if number < uint64Size then some number else none

/-- The ASCII blanks that surround a stored text. -/
def isSpace (byte : UInt8) : Bool := byte == 32 || (9 ≤ byte.toNat && byte.toNat ≤ 13)

/-- Remove blanks at both ends of a text. -/
def trimSpace (text : Bytes) : Bytes := ((text.dropWhile isSpace).reverse.dropWhile isSpace).reverse

variable {digit : Nat}

theorem digitByte_toNat (small : digit < 10) : (digitByte digit).toNat = 48 + digit := by
  interval_cases digit <;> rfl

/-- A digit byte reads back as its digit. -/
@[simp] theorem digitValue?_digitByte (small : digit < 10) :
    digitValue? (digitByte digit) = some digit := by
  interval_cases digit <;> rfl

/-- Digit bytes are not blanks. -/
theorem isSpace_digitByte (small : digit < 10) : isSpace (digitByte digit) = false := by
  interval_cases digit <;> rfl

/-- Reading digit bytes continues the positional value. -/
theorem digitsValue?_map_digitByte
    (accumulated : Nat)
    {digits : List Nat}
    (small : ∀ digit ∈ digits, digit < 10) :
    digitsValue? accumulated (digits.map digitByte) = some (digits.foldl
        (fun total digit => 10 * total + digit) accumulated) := by
  induction digits generalizing accumulated with
  | nil => rfl
  | cons digit rest inductionHypothesis =>
    have headSmall : digit < 10 := small digit (by simp)
    simp only [map_cons, digitsValue?, digitValue?_digitByte headSmall, foldl_cons]
    exact inductionHypothesis _ (fun later member => small later (by simp [member]))

/-- The positional fold over most significant digits first is `Nat.ofDigits`. -/
theorem foldl_reverse_eq_ofDigits (digits : List Nat) :
    digits.reverse.foldl (fun total digit => 10 * total + digit) 0 = ofDigits 10 digits := by
  rw [foldl_reverse]
  induction digits with
  | nil => rfl
  | cons digit rest inductionHypothesis =>
    simp only [foldr_cons, inductionHypothesis, ofDigits_cons]
    omega

variable {number : Nat} {byte : UInt8}

/-- Every byte of a decimal text is the byte of a digit. -/
theorem exists_digit_of_mem_formatUint (member : byte ∈ formatUint number) :
    ∃ digit, digit < 10 ∧ byte = digitByte digit := by
  unfold formatUint at member
  split at member
  · exact ⟨0, by omega, by simpa using member⟩
  · obtain ⟨digit, digitMember, shape⟩ := mem_map.mp member
    exact ⟨digit, digits_lt_base (by omega) (mem_reverse.mp digitMember), shape.symm⟩

/-- A decimal text is never empty. -/
theorem formatUint_ne_nil (number : Nat) : formatUint number ≠ [] := by
  unfold formatUint
  split
  · simp
  · rename_i nonzero
    simpa [digits_eq_nil_iff_eq_zero] using nonzero

/-- A decimal text has the value it was written for. -/
theorem digitsValue?_formatUint (number : Nat) :
    digitsValue? 0 (formatUint number) = some number := by
  unfold formatUint
  split
  · rename_i zero
    subst zero
    rfl
  · have small : ∀ digit ∈ (digits 10 number).reverse, digit < 10 := by
      intro digit member
      exact digits_lt_base (by omega) (mem_reverse.mp member)
    rw [digitsValue?_map_digitByte 0 small, foldl_reverse_eq_ofDigits, ofDigits_digits]

/-- Every 64-bit number is read back from its decimal text. -/
@[simp] theorem parseUint_formatUint (fits : number < uint64Size) :
    parseUint (formatUint number) = some number := by
  simp [parseUint, formatUint_ne_nil, digitsValue?_formatUint, fits]

variable {text : Bytes}

theorem of_parseUint (parsed : parseUint text = some number) :
    digitsValue? 0 text = some number ∧ number < uint64Size := by
  unfold parseUint at parsed
  split_ifs at parsed
  split at parsed
  · cases parsed
  · rename_i value
    split_ifs at parsed with fits
    cases parsed
    exact ⟨value, fits⟩

theorem formatUint_injective : Function.Injective formatUint := by
  intro left right same
  have values := congrArg (digitsValue? 0) same
  rw [digitsValue?_formatUint, digitsValue?_formatUint] at values
  exact Option.some.inj values

/-- A decimal text holds no byte but digits. -/
theorem notMem_formatUint (noDigit : byte.toNat < 48 ∨ 57 < byte.toNat) (number : Nat) :
    byte ∉ formatUint number := by
  intro member
  obtain ⟨digit, small, rfl⟩ := exists_digit_of_mem_formatUint member
  rw [digitByte_toNat small] at noDigit
  omega

/-- A text with a value consists of digits. -/
theorem exists_digits_of_digitsValue? {accumulated : Nat}
    (value : digitsValue? accumulated text = some number) :
    ∃ digits : List Nat, (∀ digit ∈ digits, digit < 10) ∧ text = digits.map digitByte := by
  induction text generalizing accumulated with
  | nil => exact ⟨[], forall_mem_nil _, rfl⟩
  | cons byte rest inductionHypothesis =>
    unfold digitsValue? digitValue? at value
    split at value
    · cases value
    rename_i digit isDigit
    split_ifs at isDigit with inRange
    cases isDigit
    obtain ⟨digits, small, rfl⟩ := inductionHypothesis value
    refine ⟨(byte.toNat - 48) :: digits, ?_, ?_⟩
    · exact forall_mem_cons.mpr ⟨by omega, small⟩
    · have same : 48 + (byte.toNat - 48) = byte.toNat := by omega
      simp [digitByte, same]

/-- A text without leading zeros is the decimal text of its value. -/
theorem formatUint_of_digitsValue? (value : digitsValue? 0 text = some number)
    (positive : number ≠ 0) (canonical : ¬(1 < text.length ∧ text.head? = some 48)) :
    formatUint number = text := by
  obtain ⟨digits, small, rfl⟩ := exists_digits_of_digitsValue? value
  rw [digitsValue?_map_digitByte 0 small, ← digits.reverse_reverse,
    foldl_reverse_eq_ofDigits, Option.some.injEq] at value
  have noLeadingZero : ∀ nonempty : digits.reverse ≠ [], digits.reverse.getLast nonempty ≠ 0 := by
    intro nonempty
    rw [getLast_reverse]
    cases digits with
    | nil => exact absurd rfl nonempty
    | cons first rest =>
      rintro ⟨⟩
      cases rest with
      | nil => exact positive value.symm
      | cons second rest => exact canonical ⟨by simp, rfl⟩
  have written := digits_ofDigits 10 (by omega) digits.reverse (by simpa using small) noLeadingZero
  rw [formatUint, if_neg positive, ← value, written, reverse_reverse]

theorem formatUint_canonical (positive : number ≠ 0) : (formatUint number).head? ≠ some 48 := by
  have nonempty := digits_ne_nil_iff_ne_zero (b := 10).mpr positive
  have leading := getLast_digit_ne_zero 10 positive
  have small : (digits 10 number).getLast nonempty < 10 :=
    digits_lt_base (by omega) (getLast_mem nonempty)
  rw [formatUint, if_neg positive, head?_map, head?_reverse, getLast?_eq_some_getLast nonempty]
  intro zero
  have value := digitByte_toNat small
  rw [Option.some.inj zero] at value
  have : (48 : UInt8).toNat = 48 := rfl
  omega

/-- A text is cut in one way at the last of its separators. -/
theorem append_separator_inj {separator : UInt8} {leftHead rightHead leftTail rightTail : Bytes}
    (leftClean : separator ∉ leftTail) (rightClean : separator ∉ rightTail)
    (same : leftHead ++ separator :: leftTail = rightHead ++ separator :: rightTail) :
    leftHead = rightHead ∧ leftTail = rightTail := by
  rcases append_eq_append_iff.mp same with
    ⟨between, rfl, shape⟩ | ⟨between, rfl, shape⟩
  · cases between with
    | nil => exact ⟨(append_nil _).symm, (cons.inj shape).2⟩
    | cons head rest =>
      exact (leftClean ((cons.inj shape).2 ▸ by simp)).elim
  · cases between with
    | nil => exact ⟨append_nil _, (cons.inj shape).2.symm⟩
    | cons head rest =>
      exact (rightClean ((cons.inj shape).2 ▸ by simp)).elim

/-- The parts of a text between its separators hold none of them. -/
theorem separator_notMem_splitOn
    {separator : UInt8}
    {text part : Bytes}
    (member : part ∈ text.splitOn separator) :
    separator ∉ part := by
  induction text generalizing part with
  | nil =>
    rw [mem_singleton.mp member]
    exact not_mem_nil
  | cons first rest inductionHypothesis =>
    rw [splitOn_cons_eq_if_modifyHead] at member
    split at member
    · rcases mem_cons.mp member with rfl | later
      · exact not_mem_nil
      · exact inductionHypothesis later
    rename_i different
    cases parts : rest.splitOn separator with
    | nil => simp [parts] at member
    | cons head tail =>
      rw [parts, modifyHead_cons, mem_cons] at member
      rw [parts] at inductionHypothesis
      rcases member with rfl | later
      · rw [mem_cons, not_or]
        refine ⟨?_, inductionHypothesis mem_cons_self⟩
        rintro rfl
        exact different (beq_self_eq_true _)
      · exact inductionHypothesis (mem_cons_of_mem head later)

/-- A list without leading blanks is kept by dropping leading blanks. -/
theorem dropWhile_isSpace_eq_self (clean : ∀ byte ∈ text, isSpace byte = false) :
    text.dropWhile isSpace = text := by
  cases text with
  | nil => rfl
  | cons head rest => simp [clean head (by simp)]

/-- Trimming a written line returns the decimal text before its line feed. -/
@[simp] theorem trimSpace_formatUint_line (number : Nat) :
    trimSpace (formatUint number ++ [10]) = formatUint number := by
  have clean : ∀ byte ∈ formatUint number, isSpace byte = false := by
    intro byte member
    obtain ⟨digit, small, rfl⟩ := exists_digit_of_mem_formatUint member
    exact isSpace_digitByte small
  have leading : (formatUint number ++ [10]).dropWhile isSpace = formatUint number ++ [10] := by
    cases shape : formatUint number with
    | nil => exact (formatUint_ne_nil number shape).elim
    | cons head rest => simp [clean head (by simp [shape])]
  have trailing : (formatUint number).reverse.dropWhile isSpace = (formatUint number).reverse :=
    dropWhile_isSpace_eq_self (fun byte member => clean byte (mem_reverse.mp member))
  have lineFeed : isSpace 10 = true := rfl
  simp only [trimSpace, leading, reverse_append, reverse_cons, reverse_nil, nil_append,
    cons_append, dropWhile_cons, lineFeed, ↓reduceIte,
    trailing, reverse_reverse]

example : parseUint [49, 50, 48, 51] = some 1203 := by
  decide

end HouseGate.DecimalText
