import Mathlib.Tactic.Ring
import HouseGate.CheckedSteps
import HouseGate.EthValidator

namespace HouseGate.EthValidator

open DecimalText AsciiText Utf8Text CheckedSteps Int64 List And

/-!
# Freshness of tokens

The age checks compared with the integers.  `statementV3Freshness` orders the
times first and is exact.  `tokenFreshness` subtracts and multiplies 64-bit
numbers and `peerFreshness` subtracts them, so both accept tokens whose
difference or whose age in nanoseconds wraps around.
-/

/-- What the age checks are for, over the integers. -/
structure Fresh (iat now maxAge : Int64) : Prop where
  issued : iat.toInt ≤ now.toInt + 5
  aged : (now.toInt - iat.toInt) * 1000000000 ≤ maxAge.toInt

/-- A peer token is in its time, with five seconds of skew. -/
structure PeerFresh (iat exp now : Int64) : Prop where
  issued : iat.toInt ≤ now.toInt + 5
  unexpired : now.toInt ≤ exp.toInt + 5

/-- The age in nanoseconds fits, or the age itself wraps to a refused one. -/
def AgeFits (iat now : Int64) : Prop := iat.toInt - now.toInt ≤ 2 ^ 63 ∧
    ((now.toInt - iat.toInt) * 1000000000 < 2 ^ 63 ∨
      2 ^ 63 ≤ now.toInt - iat.toInt ∧ now.toInt - iat.toInt < 2 ^ 64 - 5)

/-- A difference that a 64-bit register shows as more than the skew. -/
def Exceeds (difference : Int) : Prop :=
  5 < difference ∧ difference < 2 ^ 63 ∨ 5 - 2 ^ 64 < difference ∧ difference < -(2 ^ 63)

/-- Neither difference wraps, unless the token is refused anyway. -/
def PeerFits (iat exp now : Int64) : Prop := exp = 0 ∨ Exceeds (iat.toInt - now.toInt) ∨
    Exceeds (now.toInt - exp.toInt) ∨
    iat.toInt - now.toInt < 2 ^ 63 ∧ now.toInt - exp.toInt < 2 ^ 63

/-! ## The checks -/

@[simp] theorem toInt_second : second.toInt = 1000000000 := by
  decide

@[simp] theorem toInt_clockSkewTolerance : clockSkewTolerance.toInt = 5 := by
  decide

variable {now : Int64}

theorem tokenFreshness_eq_ok_iff {iat maxAge : Int64} : tokenFreshness iat now maxAge = .ok () ↔
    -5 ≤ (now.toInt - iat.toInt).bmod (2 ^ 64) ∧ (max ((now.toInt - iat.toInt).bmod (2 ^ 64)) 0 *
        1000000000).bmod (2 ^ 64) ≤ maxAge.toInt := by
  have skew : (-clockSkewTolerance).toInt = -5 := by
    decide
  have zero : (0 : Int64).toInt = 0 := by
    decide
  unfold tokenFreshness
  simp only [lt_iff_toInt_lt, toInt_sub, skew, zero]
  by_cases future : (now.toInt - iat.toInt).bmod (2 ^ 64) < -5
  · simp only [if_pos future, reduceCtorEq, false_iff]
    omega
  simp only [if_neg future]
  by_cases negative : (now.toInt - iat.toInt).bmod (2 ^ 64) < 0
  · have older : max ((now.toInt - iat.toInt).bmod (2 ^ 64)) 0 = 0 := by
      omega
    simp only [if_pos negative, older, toInt_mul, toInt_second, zero]
    split
    · simp only [reduceCtorEq, false_iff]
      omega
    · simp only [true_iff]
      omega
  · have older : max ((now.toInt - iat.toInt).bmod (2 ^ 64)) 0 =
        (now.toInt - iat.toInt).bmod (2 ^ 64) := by
      omega
    simp only [if_neg negative, older, toInt_mul, toInt_sub, toInt_second]
    split
    · simp only [reduceCtorEq, false_iff]
      omega
    · simp only [true_iff]
      omega

variable {difference : Int}

/-- The register value of a difference of two 64-bit numbers. -/
theorem bmod_difference (low : -(2 ^ 64) < difference) (high : difference < 2 ^ 64) :
    difference.bmod (2 ^ 64) =
      if difference < -(2 ^ 63) then
        difference + 2 ^ 64
      else if difference < 2 ^ 63 then
        difference
      else
        difference - 2 ^ 64 := by
  simp only [Int.bmod_def]
  split <;> split <;> try split
  all_goals omega

theorem bmod_le (value : Int) : value.bmod (2 ^ 64) ≤ 2 ^ 63 - 1 := by
  simp only [Int.bmod_def]
  split <;> omega

variable {iat : Int64}

/-- Every pair of times whose age fits is judged as over the integers. -/
theorem fresh_of_tokenFreshness
    {maxAge : Int64}
    (fits : AgeFits iat now)
    (positive : 0 ≤ maxAge)
    (passed : tokenFreshness iat now maxAge = .ok ()) :
    Fresh iat now maxAge := by
  obtain ⟨skewed, aged⟩ := tokenFreshness_eq_ok_iff.mp passed
  obtain ⟨lower, upper⟩ := fits
  have positiveAge : 0 ≤ maxAge.toInt := by
    simpa [le_iff_toInt_le] using positive
  rw [bmod_difference (show -(2 ^ 64) < now.toInt - iat.toInt by omega)
    (show now.toInt - iat.toInt < 2 ^ 64 by omega)] at skewed aged
  rcases upper with short | wrapped
  · have inRange : ¬ now.toInt - iat.toInt < -(2 ^ 63) ∧ now.toInt - iat.toInt < 2 ^ 63 := by
      omega
    simp only [if_neg inRange.1, if_pos inRange.2] at skewed aged
    refine ⟨by omega, ?_⟩
    rcases Int.lt_or_le (now.toInt - iat.toInt) 0 with early | late
    · omega
    · rw [max_eq_left late, bmod_difference (by omega) (by omega)] at aged
      omega
  · omega

/-- A check that admits no stale token is made on times whose age fits. -/
theorem ageFits_of_fresh
    (sound : tokenFreshness iat now maxValue = .ok () → Fresh iat now maxValue) :
    AgeFits iat now := by
  have nowRange := intro now.le_toInt now.toInt_lt
  have iatRange := intro iat.le_toInt iat.toInt_lt
  have longest : maxValue.toInt = 2 ^ 63 - 1 := by
    decide
  rw [tokenFreshness_eq_ok_iff, longest] at sound
  have register := bmod_difference (show -(2 ^ 64) < now.toInt - iat.toInt by omega)
      (show now.toInt - iat.toInt < 2 ^ 64 by omega)
  by_cases skewed : -5 ≤ (now.toInt - iat.toInt).bmod (2 ^ 64)
  · obtain ⟨issued, aged⟩ := sound ⟨skewed, bmod_le _⟩
    exact ⟨by omega, .inl (by omega)⟩
  rw [register] at skewed
  split at skewed
  · omega
  · split at skewed
    · exact ⟨by omega, .inl (by omega)⟩
    · exact ⟨by omega, .inr (by omega)⟩

theorem toNat_toUInt64 (value : Int64) : (value.toUInt64.toNat : Int) =
    if value.toInt < 0 then value.toInt + 2 ^ 64 else value.toInt := by
  have signed : value.toInt = value.toBitVec.toInt := rfl
  have unsigned : value.toUInt64.toNat = value.toBitVec.toNat := rfl
  rw [signed, unsigned, BitVec.toInt_eq_toNat_cond]
  split <;> split <;> omega

/-- Ordered times are as far apart unsigned as over the integers. -/
theorem toNat_sub_toUInt64 {earlier later : Int64} (ordered : earlier.toInt ≤ later.toInt) :
    ((later.toUInt64 - earlier.toUInt64).toNat : Int) = later.toInt - earlier.toInt := by
  have earlierRange := intro earlier.le_toInt earlier.toInt_lt
  have laterRange := intro later.le_toInt later.toInt_lt
  have earlierValue := toNat_toUInt64 earlier
  have laterValue := toNat_toUInt64 later
  rw [UInt64.toNat_sub]
  split at earlierValue <;> split at laterValue <;> omega

/-- A duration in whole seconds. -/
theorem toNat_div_second {duration : Int64} (positive : 0 ≤ duration.toInt) :
    ((duration / second).toUInt64.toNat : Int) = duration.toInt / 1000000000 := by
  have smallest : duration ≠ minValue := by
    intro same
    rw [same] at positive
    exact absurd positive (by decide)
  rw [toNat_toUInt64, toInt_div_of_ne_left _ _ smallest,
    toInt_second, Int.tdiv_eq_ediv_of_nonneg positive, if_neg]
  omega

/-- The check of snapshot queries is exact for all times. -/
theorem fresh_of_statementV3Freshness
    {maxAge : Int64} (passed : statementV3Freshness iat now maxAge = .ok ()) :
    Fresh iat now maxAge := by
  have zero : (0 : Int64).toInt = 0 := by
    decide
  have skew : (5 : UInt64).toNat = 5 := by
    decide
  unfold statementV3Freshness at passed
  simp only [lt_iff_toInt_lt, UInt64.lt_iff_toNat_lt, zero, skew] at passed
  by_cases early : now.toInt < iat.toInt
  · have ahead := toNat_sub_toUInt64 (Int.le_of_lt early)
    split at passed
    · cases passed
    · split at passed
      · cases passed
      · rename_i valid
        exact ⟨by omega, by omega⟩
  · have behind := toNat_sub_toUInt64 (Int.not_lt.mp early)
    simp only [early, false_and, if_false] at passed
    split at passed
    · cases passed
    · rename_i valid
      simp only [not_or, not_lt] at valid
      have limit := toNat_div_second valid.1
      exact ⟨by omega, by omega⟩

theorem peerFreshness_eq_ok_iff {iat exp : Int64} : peerFreshness iat exp now = .ok () ↔
    (iat.toInt - now.toInt).bmod (2 ^ 64) ≤ 5 ∧ exp ≠ 0 ∧
      (now.toInt - exp.toInt).bmod (2 ^ 64) ≤ 5 := by
  unfold peerFreshness
  simp only [lt_iff_toInt_lt, toInt_sub, toInt_clockSkewTolerance]
  split
  · simp only [reduceCtorEq, false_iff]
    omega
  split
  · rename_i expired
    simp only [reduceCtorEq, false_iff]
    rintro ⟨-, present, unexpired⟩
    rcases expired with missing | expired
    · exact present missing
    · omega
  · rename_i valid
    simp only [not_or, not_lt] at valid
    simp only [true_iff]
    exact ⟨by omega, valid.1, valid.2⟩

theorem bmod_le_skew_iff (low : -(2 ^ 64) < difference) (high : difference < 2 ^ 64) :
    difference.bmod (2 ^ 64) ≤ 5 ↔ ¬ Exceeds difference := by
  rw [bmod_difference low high]
  unfold Exceeds
  split <;> try split
  all_goals omega

/-- The peer check is sound exactly where the differences fit. -/
theorem peerFresh_iff {iat exp : Int64} :
    (peerFreshness iat exp now = .ok () → PeerFresh iat exp now) ↔ PeerFits iat exp now := by
  have nowRange := intro now.le_toInt now.toInt_lt
  have iatRange := intro iat.le_toInt iat.toInt_lt
  have expRange := intro exp.le_toInt exp.toInt_lt
  rw [peerFreshness_eq_ok_iff, bmod_le_skew_iff (by omega) (by omega),
    bmod_le_skew_iff (by omega) (by omega)]
  constructor
  · intro sound
    by_cases missing : exp = 0
    · exact .inl missing
    by_cases early : Exceeds (iat.toInt - now.toInt)
    · exact .inr (.inl early)
    · by_cases late : Exceeds (now.toInt - exp.toInt)
      · exact .inr (.inr (.inl late))
      · obtain ⟨issued, unexpired⟩ := sound ⟨early, missing, late⟩
        exact .inr (.inr (.inr ⟨by omega, by omega⟩))
  · rintro fits ⟨early, present, late⟩
    rcases fits with missing | exceeds | exceeds | short
    · exact absurd missing present
    · exact absurd exceeds early
    · exact absurd exceeds late
    · unfold Exceeds at early late
      exact ⟨by omega, by omega⟩

/-! ## The validators -/

/-- The payload of a query token, in either form. -/
def tokenPayload (library : Library) (token : Bytes) : Except TokenError JWSPayload :=
  if isJSONToken token then
    (parseJWSJSON library token).map Prod.snd
  else
    (parseJWSCompact library token).map fun parts => parts.2.1

variable {header : JWSHeader} {payload : JWSPayload} {meta' : QueryMeta} {result : ValidationResult}

section Accepted

variable {library : Library} {validator : Validator} {sql purpose token address : Bytes}

theorem tokenFreshness_of_verified
    (passed : verifyPayloadAndHeader library validator now header payload sql purpose = .ok ()) :
    tokenFreshness payload.iat now validator.maxTokenAge = .ok () := by
  simp only [verifyPayloadAndHeader, bind_eq_ok_iff] at passed
  obtain ⟨_, -, _, fresh, -⟩ := passed
  exact fresh

theorem tokenFreshness_of_compact
    {signature : Bytes} (parsed : parseJWSCompact library token = .ok (header, payload, signature))
    (passed : validateJWSCompact library validator now token sql purpose = .ok address) :
    tokenFreshness payload.iat now validator.maxTokenAge = .ok () := by
  simp only [validateJWSCompact, parsed, bind_eq_ok_iff, Except.ok.injEq, exists_eq_left'] at passed
  obtain ⟨_, verified, -⟩ := passed
  exact tokenFreshness_of_verified verified

theorem tokenFreshness_of_json
    {jws : JWSJSON} (parsed : parseJWSJSON library token = .ok (jws, payload))
    (passed : validateJWSJSON library validator now token sql purpose = .ok address) :
    tokenFreshness payload.iat now validator.maxTokenAge = .ok () := by
  simp only [validateJWSJSON, parsed, bind_eq_ok_iff, Except.ok.injEq, exists_eq_left'] at passed
  obtain ⟨addresses, all, found⟩ := passed
  cases signatures : jws.signatures with
  | nil =>
    rw [signatures] at all
    cases all
    cases found
  | cons sig rest =>
    simp only [signatures, mapM_cons, validateJWSSignature, bind_eq_ok_iff] at all
    obtain ⟨first, ⟨_, -, _, -, _, verified, -⟩, -⟩ := all
    exact tokenFreshness_of_verified verified

theorem tokenFreshness_of_token (carried : tokenPayload library token = .ok payload)
    (passed : validateToken library validator now token sql purpose = .ok address) :
    tokenFreshness payload.iat now validator.maxTokenAge = .ok () := by
  unfold tokenPayload at carried
  unfold validateToken at passed
  split at carried
  · rename_i json
    rw [if_pos json] at passed
    cases parsed : parseJWSJSON library token with
    | error failure =>
      rw [parsed] at carried
      cases carried
    | ok parts =>
      rw [parsed] at carried
      cases carried
      exact tokenFreshness_of_json parsed passed
  · rename_i compact
    rw [if_neg compact] at passed
    cases parsed : parseJWSCompact library token with
    | error failure =>
      rw [parsed] at carried
      cases carried
    | ok parts =>
      rw [parsed] at carried
      cases carried
      exact tokenFreshness_of_compact parsed passed

/-- An accepted query has no signer, or the one of the token it carried. -/
theorem validateQueryFor_cases
    (accepted : validateQueryFor library validator now meta' purpose = .ok result) :
    (result = .anonymous ∧ (validator.enabled = false ∨ meta'.settings authTokenSettingKey = none ∨
        meta'.settings authTokenSettingKey = some [])) ∨
      ∃ token, meta'.settings authTokenSettingKey = some token ∧ token ≠ [] ∧
          validateToken library validator now (trimQuotes token)
            meta'.sql purpose = .ok result.address ∧
          grantBypasses validator meta'.settings result.address = .ok result := by
  unfold validateQueryFor at accepted
  split at accepted
  · rename_i disabled
    cases accepted
    exact .inl ⟨rfl, .inl (by simpa using disabled)⟩
  split at accepted
  · rename_i missing
    split at accepted
    · cases accepted
      exact .inl ⟨rfl, .inr (.inl missing)⟩
    · cases accepted
  · rename_i missing
    split at accepted
    · cases accepted
      exact .inl ⟨rfl, .inr (.inr missing)⟩
    · cases accepted
  · rename_i first rest found
    obtain ⟨address, validated, granted⟩ := bind_eq_ok_iff.mp accepted
    have same : result.address = address := by
      simp only [grantBypasses, bind_eq_ok_iff] at granted
      obtain ⟨_, -, _, -, _, -, ⟨⟩⟩ := granted
      rfl
    refine .inr ⟨first :: rest, found, by simp, ?_⟩
    rw [same]
    exact ⟨validated, granted⟩

theorem tokenFreshness_of_query
    (enabled : validator.enabled = true) (found : meta'.settings authTokenSettingKey = some token)
    (present : token ≠ []) (carried : tokenPayload library (trimQuotes token) = .ok payload)
    (accepted : validateQueryFor library validator now meta' purpose = .ok result) :
    tokenFreshness payload.iat now validator.maxTokenAge = .ok () := by
  rcases validateQueryFor_cases accepted with anonymous | signed
  · rcases anonymous with ⟨-, disabled | missing | missing⟩
    · rw [enabled] at disabled
      cases disabled
    · rw [found] at missing
      cases missing
    · rw [found] at missing
      cases missing
      exact absurd rfl present
  · obtain ⟨other, again, -, validated, -⟩ := signed
    rw [found] at again
    cases again
    exact tokenFreshness_of_token carried validated

theorem tokenFreshness_of_statementV2 {want payload : JWSStatementPayloadV2}
    (carried : decodeStatementV2Payload library (trimToken token) = .ok payload)
    (accepted : validateStatementV2 library validator now token want = .ok address) :
    tokenFreshness payload.iat now validator.maxTokenAge = .ok () := by
  simp only [validateStatementV2, bind_eq_ok_iff] at accepted
  obtain ⟨_, -, _, -, _, -, decoded, same, _, -, _, fresh, -⟩ := accepted
  cases carried.symm.trans same
  exact fresh

/-- `ValidateStatementV3` accepts only fresh tokens, whatever the times. -/
theorem fresh_of_statementV3
    {want payload : JWSStatementPayloadV3}
    {input sig : Bytes}
    (carried : decodeStatementV3 library token = .ok (payload, input, sig))
    (accepted : validateStatementV3 library validator now token want = .ok address) :
    Fresh payload.iat now validator.maxTokenAge := by
  simp only [validateStatementV3, verifyStatementV3, bind_eq_ok_iff] at accepted
  obtain ⟨_, ⟨parts, same, _, -, _, -, _, -, _, -, _, -, _, -, _, -, ⟨⟩⟩, _, fresh, -⟩ := accepted
  cases carried.symm.trans same
  exact fresh_of_statementV3Freshness fresh

/-- `ValidateSnapshotQueryControl` accepts only fresh tokens, whatever the times. -/
theorem fresh_of_snapshotQueryControl
    {want : SnapshotQueryControlBinding}
    {payload : SnapshotQueryControlPayloadV1}
    {input sig : Bytes}
    (carried : decodeSnapshotQueryControl library token = .ok (payload, input, sig))
    (accepted : validateSnapshotQueryControl library validator now token want = .ok address) :
    Fresh payload.iat now validator.maxTokenAge := by
  simp only [validateSnapshotQueryControl, bind_eq_ok_iff] at accepted
  obtain ⟨account, -, parts, same, _, fresh, -⟩ := accepted
  cases carried.symm.trans same
  exact fresh_of_statementV3Freshness fresh

theorem peerFreshness_of_peerLogin {audience : Bytes} {payload : JWSPeerPayload}
    (carried : decodePeerPayload library token = .ok payload)
    (accepted : validatePeerLogin library validator now token audience = .ok address) :
    peerFreshness payload.iat payload.exp now = .ok () := by
  simp only [validatePeerLogin, bind_eq_ok_iff] at accepted
  obtain ⟨_, -, decoded, same, _, -, _, -, _, fresh, -⟩ := accepted
  cases carried.symm.trans same
  exact fresh

end Accepted

/-! ## Exactness -/

variable (library : Library)

/-- No validator accepts a token with these times unless it is fresh. -/
structure FreshnessExact (now iat exp : Int64) : Prop where
  query : ∀ validator meta' purpose result token payload, 0 ≤ validator.maxTokenAge →
      validator.enabled = true →
      meta'.settings authTokenSettingKey = some token →
      token ≠ [] →
      validateQueryFor library validator now meta' purpose = .ok result →
      tokenPayload library (trimQuotes token) = .ok payload →
      payload.iat = iat → Fresh iat now validator.maxTokenAge
  statementV2 : ∀ validator token want payload account, 0 ≤ validator.maxTokenAge →
      validateStatementV2 library validator now token want = .ok account →
      decodeStatementV2Payload library (trimToken token) = .ok payload →
      payload.iat = iat → Fresh iat now validator.maxTokenAge
  statementV3 : ∀ validator token want payload input sig account, 0 ≤ validator.maxTokenAge →
      validateStatementV3 library validator now token want = .ok account →
      decodeStatementV3 library token = .ok (payload, input, sig) →
      payload.iat = iat → Fresh iat now validator.maxTokenAge
  control : ∀ validator token want payload input sig account, 0 ≤ validator.maxTokenAge →
      validateSnapshotQueryControl library validator now token want = .ok account →
      decodeSnapshotQueryControl library token = .ok (payload, input, sig) →
      payload.iat = iat → Fresh iat now validator.maxTokenAge
  peer : ∀ validator token audience payload address,
      validatePeerLogin library validator now token audience = .ok address →
      decodePeerPayload library token = .ok payload →
      payload.iat = iat → payload.exp = exp → PeerFresh iat exp now

/-- A token that only its age can make `ValidateQuery` refuse. -/
structure SignsQuery (token sql address : Bytes) (iat : Int64) : Prop where
  present : token ≠ []
  unquoted : trimQuotes token = token
  compact : isJSONToken token = false
  parsed : ∃ header payload signature,
      parseJWSCompact library token = .ok (header, payload, signature) ∧
        isSupportedAlgorithm header.alg = true ∧
        payload.iat = iat ∧
        equalFold payload.queryHash (keccak256Hex library sql) = true ∧
        recoverAddressFromInput library (signingInputOf token) signature = .ok address

/-- A token that only its times can make `ValidatePeerLogin` refuse. -/
structure SignsPeer (token audience address : Bytes) (iat exp : Int64) : Prop where
  carried : decodePeerPayload library token = .ok ⟨iat, exp, audience, peerLoginPurpose⟩
  parsed : ∃ headerText payloadText signatureText signature,
      splitCompact (trimQuotes token) = .ok (headerText, payloadText, signatureText) ∧
        library.rawURL signatureText = some signature ∧
        recoverAddressFromInput library (headerText ++ dot :: payloadText) signature = .ok address

/-- A signer that can put any times into a token. -/
structure Signer where
  address : Bytes
  sql : Bytes
  audience : Bytes
  queryToken : Int64 → Bytes
  peerToken : Int64 → Int64 → Bytes
  signsQuery : ∀ iat, SignsQuery library (queryToken iat) sql address iat
  signsPeer : ∀ iat exp, SignsPeer library (peerToken iat exp) audience address iat exp

/-- A validator for every signer with the longest token age. -/
def patientValidator : Validator where
  allowedAddresses := []
  maxTokenAge := maxValue
  enabled := true
  allowNoAuth := false
  indexerAddress := []
  platformOperatorAddresses := []
  peerSigners := some fun _ => true

/-- A query with nothing but its token. -/
def tokenOnly (sql token : Bytes) : QueryMeta where
  sql := sql
  settings := fun key =>
    if key = authTokenSettingKey then some token else none

theorem grantBypasses_tokenOnly (validator : Validator) (sql token address : Bytes) :
    grantBypasses validator (tokenOnly sql token).settings address =
      .ok ⟨address, false, false, false⟩ := by
  rfl

variable {library}

theorem validateQueryFor_of_signs
    {token sql address : Bytes} (signs : SignsQuery library token sql address iat)
    (fresh : tokenFreshness iat now maxValue = .ok ()) :
    validateQueryFor library patientValidator now (tokenOnly sql token) [] =
      .ok ⟨address, false, false, false⟩ := by
  obtain ⟨header, payload, signature, parsed, alg, issued, hash, recovered⟩ := signs.parsed
  have verified :
      verifyPayloadAndHeader library patientValidator now header payload sql [] = .ok () := by
    simp only [verifyPayloadAndHeader, check, alg, hash, issued, patientValidator, fresh]
    rfl
  have admitted : checkAllowlist patientValidator address = .ok () := rfl
  have validated :
      validateToken library patientValidator now (trimQuotes token) sql [] = .ok address := by
    rw [signs.unquoted, validateToken, if_neg (by simp [signs.compact])]
    simp only [validateJWSCompact, parsed, bind, Except.bind, verified, recovered, admitted]
    rfl
  obtain ⟨first, rest, shape⟩ := exists_cons_of_ne_nil signs.present
  subst shape
  calc validateQueryFor library patientValidator now (tokenOnly sql (first :: rest)) []
    _ = (do
        let address ← validateToken library patientValidator now (trimQuotes (first :: rest)) sql []
        grantBypasses patientValidator (tokenOnly sql (first :: rest)).settings address) := rfl
    _ = .ok ⟨address, false, false, false⟩ := by
      rw [validated]
      exact grantBypasses_tokenOnly patientValidator sql (first :: rest) address

theorem tokenPayload_of_signs
    {token sql address : Bytes} (signs : SignsQuery library token sql address iat) :
    ∃ payload, tokenPayload library (trimQuotes token) = .ok payload ∧ payload.iat = iat := by
  obtain ⟨header, payload, signature, parsed, -, issued, -, -⟩ := signs.parsed
  refine ⟨payload, ?_, issued⟩
  rw [signs.unquoted, tokenPayload, if_neg (by simp [signs.compact]), parsed]
  rfl

theorem validatePeerLogin_of_signs {token audience address : Bytes} {exp : Int64}
    (signs : SignsPeer library token audience address iat exp)
    (fresh : peerFreshness iat exp now = .ok ()) :
    validatePeerLogin library patientValidator now token audience = .ok address := by
  obtain ⟨headerText, payloadText, signatureText, signature, segments,
    decoded, recovered⟩ := signs.parsed
  have admitted : checkPeerSigner patientValidator address = .ok () := rfl
  simp only [validatePeerLogin, segments, signs.carried, decoded, ofOption,
    recovered, bind, Except.bind, fresh, admitted]
  rfl

/-- The validators are exact just where no difference wraps around. -/
theorem freshness_exact_iff_times_fit
    (library : Library)
    (signer : Signer library)
    (now iat exp : Int64) :
    FreshnessExact library now iat exp ↔ AgeFits iat now ∧ PeerFits iat exp now := by
  constructor
  · intro exact'
    constructor
    · apply ageFits_of_fresh
      intro fresh
      have signs := signer.signsQuery iat
      obtain ⟨payload, carried, issued⟩ := tokenPayload_of_signs signs
      exact exact'.query patientValidator
        (tokenOnly signer.sql (signer.queryToken iat)) [] _ _ payload
        (by decide) rfl (by simp [tokenOnly]) signs.present
        (validateQueryFor_of_signs signs fresh) carried issued
    · apply peerFresh_iff.mp
      intro fresh
      have signs := signer.signsPeer iat exp
      exact exact'.peer patientValidator _ _ _ _
        (validatePeerLogin_of_signs signs fresh) signs.carried rfl rfl
  · rintro ⟨ageFits, peerFits⟩
    constructor
    · rintro validator meta' purpose result token payload positive enabled
        found present accepted carried rfl
      exact fresh_of_tokenFreshness ageFits positive
        (tokenFreshness_of_query enabled found present carried accepted)
    · rintro validator token want payload account positive accepted carried rfl
      exact fresh_of_tokenFreshness ageFits positive
        (tokenFreshness_of_statementV2 carried accepted)
    · rintro validator token want payload input sig account - accepted carried rfl
      exact fresh_of_statementV3 carried accepted
    · rintro validator token want payload input sig account - accepted carried rfl
      exact fresh_of_snapshotQueryControl carried accepted
    · rintro validator token audience payload address accepted carried rfl rfl
      exact peerFresh_iff.mpr peerFits (peerFreshness_of_peerLogin carried accepted)

/-! ## Tokens that write their times as register values -/

def registerText (time : Int64) : Bytes := formatUint time.toUInt64.toNat

def readRegister (text : Bytes) : Option Int64 :=
  (parseUint text).map fun number => (UInt64.ofNat number).toInt64

/-- Libraries that leave texts as they are and find one signer. -/
def registerLibrary : Library where
  rawURL := some
  canonicalRawURL := some
  header := fun _ => some ⟨ascii "ES256K", ascii "JWT"⟩
  payload := fun text => do
    let iat ← readRegister text
    return ⟨iat, ascii "0x", []⟩
  payloadV2 := fun _ => none
  payloadV3 := ⟨fun _ => none, fun _ => none⟩
  control := ⟨fun _ => none, fun _ => none⟩
  peerPayload := fun text =>
    match text.splitOn comma with
    | [iatText, expText] => do
        let iat ← readRegister iatText
        let exp ← readRegister expText
        return ⟨iat, exp, [], peerLoginPurpose⟩
    | _ => none
  json := fun _ => none
  keccak256 := fun _ => []
  recoverAddress := fun _ _ => some (ascii "0xaa")
  validSignatureValues := fun _ => true

def compactToken (payloadText : Bytes) : Bytes :=
  ascii "h" ++ dot :: payloadText ++ dot :: ascii "s"

variable (time : Int64)

theorem readRegister_registerText : readRegister (registerText time) = some time := by
  have fits : time.toUInt64.toNat < uint64Size := time.toUInt64.toNat_lt
  rw [readRegister, registerText, parseUint_formatUint fits,
    Option.map_some, UInt64.ofNat_toNat, toInt64_toUInt64]

theorem not_mem_registerText {byte : UInt8} (other : ∀ digit < 10, byte ≠ digitByte digit) :
    byte ∉ registerText time := by
  intro member
  obtain ⟨digit, small, same⟩ := exists_digit_of_mem_formatUint member
  exact other digit small same

variable (payloadText : Bytes)

theorem reverse_compactToken :
    (compactToken payloadText).reverse = 115 :: dot :: (payloadText.reverse ++ [dot, 104]) := by
  simp [compactToken, show ascii "h" = [104] by decide, show ascii "s" = [115] by decide]

theorem trimQuotes_compactToken :
    trimQuotes (compactToken payloadText) = compactToken payloadText := by
  have front : trimQuotes (compactToken payloadText) =
      ((compactToken payloadText).reverse.dropWhile fun byte =>
        byte == doubleQuote || byte == quote).reverse := rfl
  rw [front, reverse_compactToken]
  calc (dropWhile (fun byte => byte == doubleQuote || byte == quote)
      (115 :: dot :: (payloadText.reverse ++ [dot, 104]))).reverse
    _ = (115 :: dot :: (payloadText.reverse ++ [dot, 104])).reverse := rfl
    _ = compactToken payloadText := by
      rw [← reverse_compactToken, reverse_reverse]

theorem isJSONToken_compactToken : isJSONToken (compactToken payloadText) = false := by
  have first : (compactToken payloadText).head?.any isWordPart := rfl
  have last : (compactToken payloadText).getLast?.any isWordPart := by
    rw [← head?_reverse, reverse_compactToken]
    rfl
  have kept := trimUnicodeSpace_of_ends (by decide) (by decide) first last
  rw [isJSONToken, kept]
  rfl

theorem splitCompact_compactToken {payloadText : Bytes} (plain : dot ∉ payloadText) :
    splitCompact (compactToken payloadText) = .ok (ascii "h", payloadText, ascii "s") := by
  have joined :
      compactToken payloadText = [dot].intercalate [ascii "h", payloadText, ascii "s"] := by
    simp [compactToken, intercalate]
  have segments : (compactToken payloadText).splitOn dot = [ascii "h", payloadText, ascii "s"] := by
    rw [joined]
    apply splitOn_intercalate
    · intro segment member
      simp only [mem_cons, not_mem_nil, or_false] at member
      rcases member with rfl | rfl | rfl
      · decide
      · exact plain
      · decide
    · simp
  rw [splitCompact, segments]

theorem dot_not_mem_registerText : dot ∉ registerText time := not_mem_registerText time (by decide)

variable (iat exp : Int64)

def peerText : Bytes := registerText iat ++ comma :: registerText exp

theorem dot_not_mem_peerText : dot ∉ peerText iat exp := by
  intro member
  rcases mem_append.mp member with early | late
  · exact dot_not_mem_registerText iat early
  · rcases mem_cons.mp late with same | late
    · exact absurd same (by decide)
    · exact dot_not_mem_registerText exp late

theorem splitOn_peerText :
    (peerText iat exp).splitOn comma = [registerText iat, registerText exp] := by
  have joined : peerText iat exp = [comma].intercalate [registerText iat, registerText exp] := by
    simp [peerText, intercalate]
  rw [joined]
  apply splitOn_intercalate
  · intro segment member
    simp only [mem_cons, not_mem_nil, or_false] at member
    rcases member with rfl | rfl
    · exact not_mem_registerText iat (by decide)
    · exact not_mem_registerText exp (by decide)
  · simp

theorem registerLibrary_payload (iat : Int64) :
    registerLibrary.payload (registerText iat) = some ⟨iat, ascii "0x", []⟩ := by
  simp only [registerLibrary, readRegister_registerText]
  rfl

theorem registerLibrary_peerPayload :
    registerLibrary.peerPayload (peerText iat exp) = some ⟨iat, exp, [], peerLoginPurpose⟩ := by
  simp only [registerLibrary, splitOn_peerText, readRegister_registerText]
  rfl

theorem registerLibrary_rawURL (text : Bytes) : registerLibrary.rawURL text = some text := rfl

theorem registerLibrary_header (text : Bytes) :
    registerLibrary.header text = some ⟨ascii "ES256K", ascii "JWT"⟩ := rfl

theorem registerLibrary_signsQuery (iat : Int64) :
    SignsQuery registerLibrary (compactToken (registerText iat)) [] (ascii "0xaa") iat where
  present := by
    simp [compactToken]
  unquoted := trimQuotes_compactToken _
  compact := isJSONToken_compactToken _
  parsed := by
    refine ⟨⟨ascii "ES256K", ascii "JWT"⟩, ⟨iat, ascii "0x", []⟩,
      ascii "s", ?_, by decide, rfl, rfl, rfl⟩
    simp only [parseJWSCompact,
      splitCompact_compactToken (dot_not_mem_registerText iat),
      registerLibrary_rawURL, registerLibrary_header,
      registerLibrary_payload, ofOption, bind, Except.bind]
    rfl

theorem registerLibrary_signsPeer :
    SignsPeer registerLibrary (compactToken (peerText iat exp)) [] (ascii "0xaa") iat exp where
  carried := by
    simp only [decodePeerPayload, trimQuotes_compactToken,
      splitCompact_compactToken (dot_not_mem_peerText iat exp),
      registerLibrary_rawURL, registerLibrary_header,
      registerLibrary_peerPayload, ofOption, bind, Except.bind]
    rfl
  parsed := by
    refine ⟨ascii "h", peerText iat exp, ascii "s", ascii "s", ?_, rfl, rfl⟩
    rw [trimQuotes_compactToken]
    exact splitCompact_compactToken (dot_not_mem_peerText iat exp)

/-- The signer that these libraries find in every token. -/
def registerSigner : Signer registerLibrary where
  address := ascii "0xaa"
  sql := []
  audience := []
  queryToken := fun iat => compactToken (registerText iat)
  peerToken := fun iat exp => compactToken (peerText iat exp)
  signsQuery := registerLibrary_signsQuery
  signsPeer := registerLibrary_signsPeer

/-- The times of a token of today fit, and those of an ancient one do not. -/
theorem freshness_exact_of_registers :
    FreshnessExact registerLibrary 1763000000 1762999970 1763000060 ∧
      ¬ FreshnessExact registerLibrary 1763000000 (-7460372037) 1763000060 := by
  rw [freshness_exact_iff_times_fit registerLibrary registerSigner,
    freshness_exact_iff_times_fit registerLibrary registerSigner]
  unfold AgeFits PeerFits Exceeds
  decide

/-- A token issued 292 years ago is accepted where a minute is allowed. -/
theorem ancient_token_accepted : validateQuery registerLibrary
    { patientValidator with maxTokenAge := 60 * second } 1763000000
    (tokenOnly [] (compactToken (registerText (-7460372037)))) =
    .ok ⟨ascii "0xaa", false, false, false⟩ ∧ ¬ Fresh (-7460372037) 1763000000 (60 * second) ∧
      ¬ FreshnessExact registerLibrary 1763000000 (-7460372037) 0 := by
  have accepted : validateQuery registerLibrary
      { patientValidator with maxTokenAge := 60 * second } 1763000000
      (tokenOnly [] (compactToken (registerText (-7460372037)))) =
      .ok ⟨ascii "0xaa", false, false, false⟩ := by
    decide +kernel
  have stale : ¬ Fresh (-7460372037) 1763000000 (60 * second) := by
    intro fresh
    exact absurd fresh.aged (by decide)
  refine ⟨accepted, stale, ?_⟩
  intro exact'
  have signs := registerLibrary_signsQuery (-7460372037)
  obtain ⟨payload, carried, issued⟩ := tokenPayload_of_signs signs
  exact stale (exact'.query _ _ [] _ _ payload (by decide) rfl
      (by simp [tokenOnly]) signs.present accepted carried issued)

end HouseGate.EthValidator
