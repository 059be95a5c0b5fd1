import HouseGate.CheckedSteps
import HouseGate.StatementId

namespace HouseGate.StatementId

open AsciiText CheckedSteps DecimalText Utf8Text LanePool StatementID List

/-!
# The grammar of statement ids

The two flat forms as a grammar, the parser of the ingress and the second
parser of the replay package.  Both parsers accept what the grammar says, and
the flat text of an id is the only text that parses to it.
-/

/-- The accumulator key: the account, or the account and the lane. -/
def StatementID.subject (id : StatementID) : Bytes :=
  if id.lane = [] then id.account else id.account ++ colon :: id.lane

/-- Which part of an identity is wrong. -/
inductive QueryIdentityError where
  | matching
  | account
  | seq
  | nonce

/-- No rune outside ASCII is a digit, so the account is read by bytes. -/
def validateQueryIdentity (account id : Bytes) : Except QueryIdentityError Unit :=
  match id.splitOn colon with
  | [owner, seqText, nonce] =>
    if owner ≠ account ∨ ¬ (ascii "0x").isPrefixOf account ∨ account.length ≤ 2 then
      .error .matching
    else if ¬ (account.drop 2).all isLowerHexByte then
      .error .account
    else
      match parseUint seqText with
      | none => .error .seq
      | some seq =>
        if seq = 0 ∨ formatUint seq ≠ seqText then
          .error .seq
        else if nonce = [] ∨ trimUnicodeSpace nonce ≠ nonce then
          .error .nonce
        else
          .ok ()
  | _ => .error .matching

/-! ## The grammar -/

/-- A lowercase account with its `0x` prefix. -/
def HexAccount (account : Bytes) : Prop := ∃ digits,
    account = ascii "0x" ++ digits ∧ digits ≠ [] ∧ ∀ digit ∈ digits, isLowerHexByte digit = true

/-- What both forms ask of their account, seq and nonce. -/
structure Segments
    (account : Bytes)
    (seq : Nat)
    (nonce : Bytes) : Prop where
  account : HexAccount account
  seqPositive : 0 < seq
  seqFits : seq < uint64Size
  nonceNonempty : nonce ≠ []
  nonceTrimmed : trimUnicodeSpace nonce = nonce
  nonceClean : colon ∉ nonce

def LegacyForm (text : Bytes) : Prop := ∃ account seq nonce,
    Segments account seq nonce ∧ text = account ++ colon :: formatUint seq ++ colon :: nonce

def LanedForm (text : Bytes) : Prop := ∃ account lane seq nonce, Segments account seq nonce ∧
    validClientLane lane = true ∧
    text = account ++ colon :: lane ++ colon :: formatUint seq ++ colon :: nonce

/-! ## Segments -/

theorem colon_notMem_of_hex {text : Bytes} (hex : ∀ digit ∈ text, isLowerHexByte digit = true) :
    colon ∉ text := by
  intro member
  exact absurd (hex colon member) (by decide)

variable {account : Bytes}

theorem colon_notMem_of_hexAccount (hex : HexAccount account) : colon ∉ account := by
  obtain ⟨digits, rfl, -, digitsHex⟩ := hex
  rw [mem_append, not_or]
  exact ⟨by decide, colon_notMem_of_hex digitsHex⟩

theorem colon_notMem_of_validClientLane {lane : Lane} (valid : validClientLane lane = true) :
    colon ∉ lane := by
  simp only [validClientLane, Bool.and_eq_true, all_eq_true] at valid
  exact colon_notMem_of_hex valid.2

theorem validClientLane_ne_nil {lane : Lane} (valid : validClientLane lane = true) : lane ≠ [] := by
  rintro rfl
  cases valid

theorem hexAccount_iff : HexAccount account ↔
    (ascii "0x").isPrefixOf account = true ∧
      account.drop 2 ≠ [] ∧ (account.drop 2).all isLowerHexByte = true := by
  constructor
  · rintro ⟨digits, rfl, nonempty, hex⟩
    exact ⟨by simp, nonempty, all_eq_true.mpr hex⟩
  · rintro ⟨isPrefix, nonempty, hex⟩
    obtain ⟨digits, rfl⟩ := isPrefixOf_iff_prefix.mp isPrefix
    exact ⟨digits, rfl, nonempty, all_eq_true.mp hex⟩

theorem toLower_of_hexAccount (hex : HexAccount account) : toLower account = account := by
  have table : ∀ value : Fin 256, isLowerHexByte (UInt8.ofNat value) = true →
      toLowerByte (UInt8.ofNat value) = UInt8.ofNat value := by
    decide +kernel
  obtain ⟨digits, rfl, -, digitsHex⟩ := hex
  rw [toLower, map_append]
  refine congrArg₂ _ (by decide) ?_
  refine (map_congr_left fun digit member => ?_).trans (map_id _)
  have entry := table ⟨digit.toNat, digit.toNat_lt⟩
  simp only [UInt8.ofNat_toNat] at entry
  exact entry (digitsHex digit member)

/-- The seq that a canonical decimal text stands for. -/
theorem canonicalSeq_iff {seqText : Bytes} {seq : Nat} :
    ¬((1 < seqText.length ∧ seqText.head? = some 48) ∨ ¬ isDecimalDigits seqText) ∧
        parseUint seqText = some seq ∧ seq ≠ 0 ↔
      seqText = formatUint seq ∧ 0 < seq ∧ seq < uint64Size := by
  constructor
  · rintro ⟨canonical, parsed, positive⟩
    obtain ⟨value, fits⟩ := of_parseUint parsed
    have same := formatUint_of_digitsValue? value positive (not_or.mp canonical).1
    exact ⟨same.symm, Nat.pos_of_ne_zero positive, fits⟩
  · rintro ⟨rfl, positive, fits⟩
    refine ⟨?_, parseUint_formatUint fits, positive.ne'⟩
    rintro (⟨-, zeroFirst⟩ | notDigits)
    · exact formatUint_canonical positive.ne' zeroFirst
    apply notDigits
    simp only [isDecimalDigits, Bool.and_eq_true, bne_iff_ne, ne_eq,
      formatUint_ne_nil, not_false_eq_true, true_and, all_eq_true]
    intro byte member
    by_contra noDigit
    refine notMem_formatUint ?_ seq member
    simp only [isDigit, Bool.and_eq_true, decide_eq_true_eq, UInt8.le_iff_toNat_le] at noDigit
    change ¬(48 ≤ byte.toNat ∧ byte.toNat ≤ 57) at noDigit
    omega

variable {seqText nonce text : Bytes} {lane : Lane} {id : StatementID}

theorem statementIDOf_eq_ok_iff (clean : colon ∉ nonce) :
    statementIDOf account lane seqText nonce = .ok id ↔ ∃ seq, Segments account seq nonce ∧
        seqText = formatUint seq ∧ id = ⟨account, lane, seq, nonce⟩ := by
  unfold statementIDOf
  constructor
  · intro passed
    cases parsed : parseUint seqText with
    | none => simp [parsed, guard_eq_ok_iff] at passed
    | some seq =>
      simp only [parsed, guard_eq_ok_iff, Except.ok.injEq] at passed
      obtain ⟨present, hex, canonical, positive, trimmed, rfl⟩ := passed
      obtain ⟨same, seqPositive, fits⟩ := canonicalSeq_iff.mp ⟨canonical, parsed, positive⟩
      simp only [not_or, not_not, isLowerHex, Bool.and_eq_true, bne_iff_ne] at present hex trimmed
      exact ⟨seq, ⟨hexAccount_iff.mpr hex.2, seqPositive, fits, present.2.2, trimmed, clean⟩,
        same, rfl⟩
  · rintro ⟨seq, segments, rfl, rfl⟩
    obtain ⟨canonical, parsed, positive⟩ :=
      canonicalSeq_iff.mpr ⟨rfl, segments.seqPositive, segments.seqFits⟩
    have hex := hexAccount_iff.mp segments.account
    simp only [parsed, guard_eq_ok_iff]
    refine ⟨?_, ?_, canonical, positive, ?_, trivial⟩
    · rintro (rfl | none | none)
      · exact hex.2.1 rfl
      · exact formatUint_ne_nil seq none
      · exact segments.nonceNonempty none
    · rw [toLower_of_hexAccount segments.account]
      simp [hex, isLowerHex]
    · simp [segments.nonceTrimmed]

/-- An id as the grammar has it. -/
structure WellFormed (id : StatementID) : Prop where
  segments : Segments id.account id.seq id.nonce
  lane : id.lane = [] ∨ validClientLane id.lane = true

theorem colon_notMem_formatUint (seq : Nat) : colon ∉ formatUint seq :=
  notMem_formatUint (.inr (by decide)) seq

/-- The texts between the colons of a flat form. -/
def StatementID.parts (id : StatementID) : List Bytes :=
  if id.lane = [] then
    [id.account, formatUint id.seq, id.nonce]
  else
    [id.account, id.lane, formatUint id.seq, id.nonce]

theorem intercalate_parts (id : StatementID) : [colon].intercalate id.parts = id.flat := by
  unfold parts flat
  split <;> simp [intercalate]

theorem WellFormed.splitOn_flat (wellFormed : WellFormed id) :
    id.flat.splitOn colon = id.parts := by
  have account := colon_notMem_of_hexAccount wellFormed.segments.account
  have nonce := wellFormed.segments.nonceClean
  rw [← intercalate_parts]
  unfold parts
  apply splitOn_intercalate
  · rcases wellFormed.lane with legacy | valid
    · simp [legacy, account, nonce, colon_notMem_formatUint]
    · simp [validClientLane_ne_nil valid, account, nonce,
        colon_notMem_of_validClientLane valid, colon_notMem_formatUint]
  · split <;> simp

/-- A text parses to the id whose flat form it is. -/
theorem parseStatementID_eq_ok_iff :
    parseStatementID text = .ok id ↔ WellFormed id ∧ text = id.flat := by
  constructor
  · intro parsed
    have joined : [colon].intercalate (text.splitOn colon) = text := intercalate_splitOn colon
    unfold parseStatementID at parsed
    split at parsed
    · rename_i account seqText nonce parts
      have clean : colon ∉ nonce :=
        separator_notMem_splitOn (show nonce ∈ text.splitOn colon by simp [parts])
      obtain ⟨seq, segments, rfl, rfl⟩ := (statementIDOf_eq_ok_iff clean).mp parsed
      rw [← joined, parts, ← intercalate_parts]
      exact ⟨⟨segments, .inl rfl⟩, rfl⟩
    · rename_i account lane seqText nonce parts
      have clean : colon ∉ nonce :=
        separator_notMem_splitOn (show nonce ∈ text.splitOn colon by simp [parts])
      split_ifs at parsed with valid
      obtain ⟨seq, segments, rfl, rfl⟩ := (statementIDOf_eq_ok_iff clean).mp parsed
      rw [← joined, parts, ← intercalate_parts, StatementID.parts,
        if_neg (validClientLane_ne_nil valid)]
      exact ⟨⟨segments, .inr valid⟩, rfl⟩
    · cases parsed
  · rintro ⟨wellFormed, rfl⟩
    have segments := wellFormed.segments
    rw [parseStatementID, wellFormed.splitOn_flat, parts]
    rcases wellFormed.lane with legacy | valid
    · simp only [legacy, if_true]
      refine (statementIDOf_eq_ok_iff segments.nonceClean).mpr ⟨id.seq, segments, rfl, ?_⟩
      rw [← legacy]
    · simp only [validClientLane_ne_nil valid, if_false, valid, if_true]
      exact (statementIDOf_eq_ok_iff segments.nonceClean).mpr ⟨id.seq, segments, rfl, rfl⟩

theorem parses_of_legacyForm (form : LegacyForm text) :
    ∃ id, id.lane = [] ∧ parseStatementID text = .ok id := by
  obtain ⟨account, seq, nonce, segments, rfl⟩ := form
  exact ⟨⟨account, [], seq, nonce⟩, rfl, parseStatementID_eq_ok_iff.mpr ⟨⟨segments, .inl rfl⟩, rfl⟩⟩

theorem parses_of_lanedForm (form : LanedForm text) :
    ∃ id, validClientLane id.lane = true ∧ parseStatementID text = .ok id := by
  obtain ⟨account, lane, seq, nonce, segments, valid, rfl⟩ := form
  refine ⟨⟨account, lane, seq, nonce⟩, valid,
    parseStatementID_eq_ok_iff.mpr ⟨⟨segments, .inr valid⟩, ?_⟩⟩
  rw [flat, if_neg (validClientLane_ne_nil valid)]

/-! ## The accumulator key and the second parser -/

variable {other : StatementID}

theorem WellFormed.colon_notMem_lane (wellFormed : WellFormed id) : colon ∉ id.lane := by
  rcases wellFormed.lane with legacy | valid
  · simp [legacy]
  · exact colon_notMem_of_validClientLane valid

/-- No account holds the separator that a lane adds to the key. -/
theorem WellFormed.subject_inj
    (left : WellFormed id)
    (right : WellFormed other)
    (same : id.subject = other.subject) :
    id.account = other.account ∧ id.lane = other.lane := by
  have leftClean := colon_notMem_of_hexAccount left.segments.account
  have rightClean := colon_notMem_of_hexAccount right.segments.account
  unfold subject at same
  split_ifs at same with leftLegacy rightLegacy rightLegacy
  · exact ⟨same, leftLegacy.trans rightLegacy.symm⟩
  · exact absurd (same ▸ by simp) leftClean
  · exact absurd (same ▸ by simp) rightClean
  · exact append_separator_inj left.colon_notMem_lane right.colon_notMem_lane same

theorem validateQueryIdentity_eq_ok_iff : validateQueryIdentity account text = .ok () ↔
    ∃ id, parseStatementID text = .ok id ∧ id.lane = [] ∧ id.account = account := by
  constructor
  · intro passed
    have joined : [colon].intercalate (text.splitOn colon) = text := intercalate_splitOn colon
    unfold validateQueryIdentity at passed
    split at passed
    · rename_i owner seqText nonce parts
      have clean : colon ∉ nonce :=
        separator_notMem_splitOn (show nonce ∈ text.splitOn colon by simp [parts])
      cases parsed : parseUint seqText with
      | none => simp [parsed, guard_eq_ok_iff] at passed
      | some seq =>
        simp only [parsed, guard_eq_ok_iff, not_or, not_not, not_le, and_true] at passed
        obtain ⟨⟨rfl, zeroX, long⟩, hex, ⟨positive, rfl⟩, nonempty, trimmed⟩ := passed
        have digits : owner.drop 2 ≠ [] := by
          simpa [drop_eq_nil_iff] using long
        refine ⟨⟨owner, [], seq, nonce⟩, ?_, rfl, rfl⟩
        rw [parseStatementID_eq_ok_iff, ← intercalate_parts, ← joined, parts]
        exact ⟨⟨⟨hexAccount_iff.mpr ⟨zeroX, digits, hex⟩,
          Nat.pos_of_ne_zero positive, (of_parseUint parsed).2, nonempty, trimmed,
          clean⟩, .inl rfl⟩, rfl⟩
    · cases passed
  · rintro ⟨id, parsed, legacy, rfl⟩
    obtain ⟨wellFormed, rfl⟩ := parseStatementID_eq_ok_iff.mp parsed
    have segments := wellFormed.segments
    have hex := hexAccount_iff.mp segments.account
    have long : 2 < id.account.length := by
      simpa [drop_eq_nil_iff] using hex.2.1
    rw [validateQueryIdentity, wellFormed.splitOn_flat, parts, if_pos legacy]
    simp [parseUint_formatUint segments.seqFits, hex.1, long, hex.2.2,
      segments.seqPositive.ne', segments.nonceNonempty,
      segments.nonceTrimmed]

/--
Both flat forms are exactly what the parser accepts, each text of them stands
for one id and each id for one text, and the parser of the replay package
accepts the ids without a lane.
-/
theorem statement_ids :
    (∀ text, (∃ id, parseStatementID text = .ok id) ↔ LegacyForm text ∨ LanedForm text) ∧
      (∀ text, ¬(LegacyForm text ∧ LanedForm text)) ∧
      (∀ text id,
        parseStatementID text = .ok id → id.flat = text ∧ parseStatementID id.flat = .ok id) ∧
      (∀ text id otherText other, parseStatementID text = .ok id →
        parseStatementID otherText = .ok other →
        (id.subject = other.subject ∧ id.seq = other.seq ↔
          id.account = other.account ∧ id.lane = other.lane ∧ id.seq = other.seq)) ∧
      ∀ account text, validateQueryIdentity account text = .ok () ↔
          ∃ id, parseStatementID text = .ok id ∧ id.lane = [] ∧ id.account = account := by
  refine ⟨?accepts, ?disjoint, ?flat, ?subject, fun _ _ => validateQueryIdentity_eq_ok_iff⟩
  case accepts =>
    intro text
    constructor
    · rintro ⟨id, parsed⟩
      obtain ⟨wellFormed, rfl⟩ := parseStatementID_eq_ok_iff.mp parsed
      unfold flat
      rcases wellFormed.lane with legacy | valid
      · rw [if_pos legacy]
        exact .inl ⟨_, _, _, wellFormed.segments, rfl⟩
      · rw [if_neg (validClientLane_ne_nil valid)]
        exact .inr ⟨_, _, _, _, wellFormed.segments, valid, rfl⟩
    · rintro (legacy | laned)
      · obtain ⟨id, -, parsed⟩ := parses_of_legacyForm legacy
        exact ⟨id, parsed⟩
      · obtain ⟨id, -, parsed⟩ := parses_of_lanedForm laned
        exact ⟨id, parsed⟩
  case disjoint =>
    rintro text ⟨legacy, laned⟩
    obtain ⟨id, noLane, parsed⟩ := parses_of_legacyForm legacy
    obtain ⟨other, valid, parsedToo⟩ := parses_of_lanedForm laned
    cases parsed.symm.trans parsedToo
    exact validClientLane_ne_nil valid noLane
  case flat =>
    intro text id parsed
    obtain ⟨-, rfl⟩ := parseStatementID_eq_ok_iff.mp parsed
    exact ⟨rfl, parsed⟩
  case subject =>
    intro text id otherText other parsed parsedOther
    constructor
    · rintro ⟨sameSubject, sameSeq⟩
      obtain ⟨sameAccount, sameLane⟩ := (parseStatementID_eq_ok_iff.mp parsed).1.subject_inj
          (parseStatementID_eq_ok_iff.mp parsedOther).1 sameSubject
      exact ⟨sameAccount, sameLane, sameSeq⟩
    · rintro ⟨sameAccount, sameLane, sameSeq⟩
      simp [subject, sameAccount, sameLane, sameSeq]

end HouseGate.StatementId
