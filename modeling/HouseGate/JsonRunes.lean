import HouseGate.JsonText

namespace HouseGate.JsonText

open DecimalText Utf8Text List

/-!
# The units of a text of a JSON document

A text is a sequence of encodings of one character each, with bytes between
them that belong to no encoding.  What is proved of a text follows by induction
over these units.
-/

variable {byte : UInt8} {rest : Bytes}

section Units

theorem leadingShape?_low {leading : UInt8} {low high more : Nat}
    (shaped : leadingShape? leading = some (low, high, more)) :
    0x80 ≤ low := by
  unfold leadingShape? at shaped
  grind

/-- The encoding of a wide character does not depend on what follows. -/
theorem trailingCount?_wide {trailing : Nat} (wide : 0x80 ≤ byte.toNat)
    (counted : trailingCount? (byte :: rest) = some trailing) :
    trailing ≤ rest.length ∧
    (∀ later ∈ rest.take trailing, 0x80 ≤ later.toNat) ∧
    ∀ other, trailingCount? (byte :: (rest.take trailing ++ other)) = some trailing := by
  have notAscii : ¬ byte.toNat < 0x80 := Nat.not_lt.mpr wide
  cases shaped : leadingShape? byte with
  | none => simp [trailingCount?, notAscii, shaped] at counted
  | some shape =>
    obtain ⟨low, high, more⟩ := shape
    cases rest with
    | nil => simp [trailingCount?, notAscii, shaped] at counted
    | cons second tail =>
      simp only [trailingCount?, notAscii, if_false, shaped,
        Option.ite_none_right_eq_some, Bool.and_eq_true, beq_iff_eq,
        all_eq_true, Option.some.injEq] at counted
      obtain ⟨⟨⟨between, sized⟩, continued⟩, rfl⟩ := counted
      have lowBound := leadingShape?_low shaped
      have enough : more ≤ tail.length := by
        rw [length_take] at sized
        omega
      refine ⟨by simpa using enough, ?_, ?_⟩
      · intro later member
        rw [take_succ_cons, mem_cons] at member
        rcases member with rfl | inTail
        · simp only [isBetween, Bool.and_eq_true, decide_eq_true_eq] at between
          omega
        · have continuation := continued later inTail
          simp only [isContinuation, Bool.and_eq_true, decide_eq_true_eq] at continuation
          omega
      · intro other
        have kept : (tail.take more ++ other).take more = tail.take more := by
          rw [take_append_of_le_length (by omega), take_take, Nat.min_self]
        simp only [trailingCount?, notAscii, if_false, shaped,
          take_succ_cons, cons_append, kept, between, sized,
          beq_self_eq_true, Bool.true_and, Option.ite_none_right_eq_some,
          all_eq_true, and_true]
        exact continued

/-- Induction over the units of a text. -/
theorem unit_induction {property : Bytes → Prop} (nil : property [])
    (narrow : ∀ byte rest, byte.toNat < 0x80 → property rest → property (byte :: rest))
    (broken : ∀ byte rest, 0x80 ≤ byte.toNat →
        trailingCount? (byte :: rest) = none → property rest → property (byte :: rest))
    (wide : ∀ byte trail rest, 0x80 ≤ byte.toNat → (∀ later ∈ trail, 0x80 ≤ later.toNat) →
        (∀ other, trailingCount? (byte :: (trail ++ other)) = some trail.length) →
        property rest → property (byte :: (trail ++ rest)))
    (text : Bytes) :
    property text := by
  induction sized : text.length using Nat.strong_induction_on generalizing text with
  | _ size inductionHypothesis =>
    cases text with
    | nil => exact nil
    | cons byte rest =>
      have shorter : rest.length < size := by
        rw [← sized, length_cons]
        exact Nat.lt_succ_self _
      by_cases isNarrow : byte.toNat < 0x80
      · exact narrow byte rest isNarrow (inductionHypothesis _ shorter rest rfl)
      have isWide : 0x80 ≤ byte.toNat := Nat.not_lt.mp isNarrow
      cases counted : trailingCount? (byte :: rest) with
      | none => exact broken byte rest isWide counted (inductionHypothesis _ shorter rest rfl)
      | some trailing =>
        obtain ⟨fits, high, closed⟩ := trailingCount?_wide isWide counted
        have length : (rest.take trailing).length = trailing := length_take_of_le fits
        have after : property (rest.drop trailing) := by
          refine inductionHypothesis _ ?_ _ rfl
          rw [length_drop]
          omega
        have step := wide byte (rest.take trailing) (rest.drop trailing) isWide
            high (by rw [length]; exact closed) after
        rwa [take_append_drop] at step

end Units

variable {trail : Bytes}

section Coercion

theorem coerceFrom_copied (copying : Nat) (text : Bytes) :
    coerceFrom copying text = text.take copying ++ coerce (text.drop copying) := by
  induction text generalizing copying with
  | nil => cases copying <;> simp [coerceFrom, coerce]
  | cons byte rest inductionHypothesis =>
    cases copying with
    | zero => rfl
    | succ copying => simp [coerceFrom, inductionHypothesis copying]

theorem coerce_narrow (narrow : byte.toNat < 0x80) (rest : Bytes) :
    coerce (byte :: rest) = byte :: coerce rest := by
  simp [coerce, coerceFrom, trailingCount?, narrow]

theorem coerce_broken (counted : trailingCount? (byte :: rest) = none) :
    coerce (byte :: rest) = replacement ++ coerce rest := by
  simp [coerce, coerceFrom, counted]

theorem coerce_wide (rest : Bytes)
    (counted : ∀ other, trailingCount? (byte :: (trail ++ other)) = some trail.length) :
    coerce (byte :: (trail ++ rest)) = byte :: (trail ++ coerce rest) := by
  simp [coerce, coerceFrom, counted rest, coerceFrom_copied trail.length]

theorem validFrom_copied (copying : Nat) (text : Bytes) :
    validFrom copying text = isValid (text.drop copying) := by
  induction text generalizing copying with
  | nil => cases copying <;> simp [validFrom, isValid]
  | cons byte rest inductionHypothesis =>
    cases copying with
    | zero => rfl
    | succ copying => simp [validFrom, inductionHypothesis copying]

theorem isValid_narrow (narrow : byte.toNat < 0x80) (rest : Bytes) :
    isValid (byte :: rest) = isValid rest := by
  simp [isValid, validFrom, trailingCount?, narrow]

theorem isValid_wide (rest : Bytes)
    (counted : ∀ other, trailingCount? (byte :: (trail ++ other)) = some trail.length) :
    isValid (byte :: (trail ++ rest)) = isValid rest := by
  simp [isValid, validFrom, counted rest, validFrom_copied trail.length]

/-- Coercion leaves a valid text. -/
theorem isValid_coerce (text : Bytes) : isValid (coerce text) = true := by
  induction text using unit_induction with
  | nil => rfl
  | narrow byte rest narrow inductionHypothesis =>
    rw [coerce_narrow narrow, isValid_narrow narrow]
    exact inductionHypothesis
  | broken byte rest wide counted inductionHypothesis =>
    have mark : ∀ other, trailingCount? (0xEF :: ([0xBF, 0xBD] ++ other)) =
        some ([0xBF, 0xBD] : Bytes).length := by
      intro other
      rfl
    rw [coerce_broken counted]
    exact (isValid_wide _ mark).trans inductionHypothesis
  | wide byte trail rest wide later counted inductionHypothesis =>
    rw [coerce_wide rest counted, isValid_wide _ counted]
    exact inductionHypothesis

end Coercion

end HouseGate.JsonText
