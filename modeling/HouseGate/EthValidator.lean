import HouseGate.SnapshotQueryJournal
import HouseGate.StatementId

namespace HouseGate.EthValidator

open DecimalText AsciiText Utf8Text LanePool SnapshotQuery StatementId

/-!
# The token validator

The checks of `EthValidator` on query tokens, statement tokens, control tokens
and peer logins.  Timestamps are 64-bit and computed with as the source does.
What the package takes from its libraries (base64, JSON, Keccak and the
recovery of an address from a signature) is a parameter.
-/

/-- The protected header of a token. -/
structure JWSHeader where
  alg : Bytes
  typ : Bytes

/-- The claims of a query token. -/
structure JWSPayload where
  iat : Int64
  queryHash : Bytes
  purpose : Bytes

/-- The claims over a statement with a payload. -/
structure JWSStatementPayloadV2 where
  purpose : Bytes
  iat : Int64
  networkID : Bytes
  keeperShardID : UInt32
  statementID : Bytes
  sqlHash : Bytes
  settingsHash : Bytes
  schemaHash : Bytes
  payloadHash : Bytes
  payloadLength : UInt64
  payloadFormat : Bytes
  clientRevision : UInt32
  targetTableID : Bytes
  rowIDProfileID : Bytes
  statementKind : UInt32

/-- The claims over a snapshot query. -/
structure JWSStatementPayloadV3 where
  purpose : Bytes
  iat : Int64
  binding : SnapshotQueryBinding
  inputRoot : Bytes

/-- The operation that a control token is for. -/
structure SnapshotQueryControlBinding where
  operation : Bytes
  networkID : Bytes
  keeperShardID : UInt32
  clientAccount : Bytes
  statementID : Bytes
  requestID : Bytes
  reservationID : Bytes
  fencingGeneration : UInt64

/-- The claims of a control token. -/
structure SnapshotQueryControlPayloadV1 where
  purpose : Bytes
  iat : Int64
  binding : SnapshotQueryControlBinding

/-- The claims of a token between servers. -/
structure JWSPeerPayload where
  iat : Int64
  exp : Int64
  aud : Bytes
  purpose : Bytes

/-- One signature of a token in JSON form. -/
structure JWSJSONSignature where
  protectedHeader : Bytes
  signature : Bytes

/-- A token in JSON form. -/
structure JWSJSON where
  payload : Bytes
  signatures : List JWSJSONSignature

/-- A JSON codec of one type: `json.Unmarshal` and `json.Marshal`. -/
structure JsonCodec (α : Type) where
  unmarshal : Bytes → Option α
  marshal : α → Option Bytes

/-- What the package takes from its libraries. -/
structure Library where
  /-- `base64.RawURLEncoding`. -/
  rawURL : Bytes → Option Bytes
  /-- `base64.RawURLEncoding.Strict`, then the comparison of encodings. -/
  canonicalRawURL : Bytes → Option Bytes
  header : Bytes → Option JWSHeader
  payload : Bytes → Option JWSPayload
  payloadV2 : Bytes → Option JWSStatementPayloadV2
  payloadV3 : JsonCodec JWSStatementPayloadV3
  control : JsonCodec SnapshotQueryControlPayloadV1
  peerPayload : Bytes → Option JWSPeerPayload
  json : Bytes → Option JWSJSON
  keccak256 : Bytes → Bytes
  /-- The address that signed a hash, as lowercase hex digits behind `0x`. -/
  recoverAddress : Bytes → Bytes → Option Bytes
  /-- Low-S and a scalar in range. -/
  validSignatureValues : Bytes → Bool

/-- The settings of the token check. -/
structure Validator where
  allowedAddresses : List Bytes
  maxTokenAge : Int64
  enabled : Bool
  allowNoAuth : Bool
  indexerAddress : Bytes
  platformOperatorAddresses : List Bytes
  peerSigners : Option (Bytes → Bool)

/-- Why a token was refused. -/
inductive TokenError where
  | missingToken
  | malformed
  | unsupportedAlgorithm (alg : Bytes)
  | issuedInFuture
  | expired
  | queryHashMismatch
  | purposeMismatch
  | bindingMismatch (field : String)
  | invalidBinding (field : String)
  | invalidOperation
  | signature
  | clientAccountMismatch
  | notInAllowlist (address : Bytes)
  | audienceMismatch
  | peerRefused (address : Bytes)
  | maintenanceReserved (address : Bytes)
  | platformOperatorReserved (address : Bytes)
  | driverReserved (address : Bytes)
  deriving DecidableEq

def canonicalJWSProtectedHeader : Bytes := ascii "\x7b\"alg\":\"ES256K\",\"typ\":\"JWT\"\x7d"

def statementPurposeV2 : Bytes := ascii "housegate-statement-v2"

def statementPurposeV3 : Bytes := ascii "housegate-statement-v3"

def snapshotQueryControlPurposeV1 : Bytes := ascii "housegate-snapshot-query-control-v1"

def peerLoginPurpose : Bytes := ascii "peer-relay"

/-- `strings.Trim` with the two quotes as its cutset. -/
def trimQuotes (text : Bytes) : Bytes :=
  let isQuote (byte : UInt8) : Bool := byte == doubleQuote || byte == quote
  ((text.dropWhile isQuote).reverse.dropWhile isQuote).reverse

def ofOption (failure : TokenError) : Option α → Except TokenError α
  | none => .error failure
  | some value => .ok value

def check (condition : Bool) (failure : TokenError) : Except TokenError Unit :=
  if condition then .ok () else .error failure

/-! ## Freshness -/

def clockSkewTolerance : Int64 := 5

def second : Int64 := 1000000000

/-- The age check of `verifyPayloadAndHeader` and `ValidateStatementV2`. -/
def tokenFreshness (iat now maxTokenAge : Int64) : Except TokenError Unit :=
  let tokenAge := now - iat
  if tokenAge < -clockSkewTolerance then
    .error .issuedInFuture
  else
    let tokenAge := if tokenAge < 0 then 0 else tokenAge
    if maxTokenAge < tokenAge * second then .error .expired else .ok ()

def statementV3Freshness (iat now maxAge : Int64) : Except TokenError Unit :=
  if now < iat ∧ 5 < iat.toUInt64 - now.toUInt64 then
    .error .issuedInFuture
  else
    let age := if now < iat then 0 else now.toUInt64 - iat.toUInt64
    if maxAge < 0 ∨ (maxAge / second).toUInt64 < age then .error .expired else .ok ()

def snapshotQueryControlFreshness (iat now maxAge : Int64) : Except TokenError Unit :=
  statementV3Freshness iat now maxAge

/-- The two checks of `ValidatePeerLogin`. -/
def peerFreshness (iat exp now : Int64) : Except TokenError Unit :=
  if clockSkewTolerance < iat - now then
    .error .issuedInFuture
  else if exp = 0 ∨ clockSkewTolerance < now - exp then
    .error .expired
  else
    .ok ()

/-! ## Query tokens -/

/-- The settings of a query by their keys. -/
abbrev Settings := Bytes → Option Bytes

/-- The part of a query that its token speaks of. -/
structure QueryMeta where
  sql : Bytes
  settings : Settings

/-- Who signed, and what the signer may do. -/
structure ValidationResult where
  address : Bytes
  maintenance : Bool
  platformOperator : Bool
  isDriver : Bool
  deriving DecidableEq

/-- The result of a query without an authenticated signer. -/
def ValidationResult.anonymous : ValidationResult := ⟨[], false, false, false⟩

def authTokenSettingKey : Bytes := ascii "SQL_x_auth_token"

def maintenanceSettingKey : Bytes := ascii "SQL_sentio_maintenance"

def platformOperatorSettingKey : Bytes := ascii "SQL_sentio_platform_operator"

def driverSettingKey : Bytes := ascii "SQL_sentio_driver"

variable (settings : Settings)

/-- What the three settings that ask for a bypass count as true. -/
def isTruthy (key : Bytes) : Bool :=
  match settings key with
  | none => false
  | some value =>
    let value := trimQuotes (trimUnicodeSpace value)
    value = ascii "1" || equalFold value (ascii "true")

def isMaintenance : Bool := isTruthy settings maintenanceSettingKey

def isPlatformOperator : Bool := isTruthy settings platformOperatorSettingKey

def isDriver : Bool := isTruthy settings driverSettingKey

section Validators

variable (library : Library) (validator : Validator) (now : Int64)

def keccak256Hex (data : Bytes) : Bytes := ascii "0x" ++ hexEncode (library.keccak256 data)

def recoverAddressFromInput (signingInput signature : Bytes) : Except TokenError Bytes :=
  ofOption .signature (library.recoverAddress (library.keccak256 signingInput) signature)

variable (address : Bytes)

/-- An empty allowlist admits every signer. -/
def checkAllowlist : Except TokenError Unit := check
    (validator.allowedAddresses = [] || validator.allowedAddresses.contains (toLower address))
    (.notInAllowlist address)

def isSupportedAlgorithm (alg : Bytes) : Bool := alg = ascii "ES256K" || alg = ascii "secp256k1"

def verifyPayloadAndHeader (header : JWSHeader) (payload : JWSPayload)
    (sql expectedPurpose : Bytes) : Except TokenError Unit := do
  check (isSupportedAlgorithm header.alg) (.unsupportedAlgorithm header.alg)
  tokenFreshness payload.iat now validator.maxTokenAge
  check (equalFold payload.queryHash (keccak256Hex library sql)) .queryHashMismatch
  check (expectedPurpose = [] || payload.purpose = expectedPurpose) .purposeMismatch

variable (token : Bytes)

/-- The three segments of a compact token. -/
def splitCompact : Except TokenError (Bytes × Bytes × Bytes) :=
  match token.splitOn dot with
  | [header, payload, signature] => .ok (header, payload, signature)
  | _ => .error .malformed

def parseJWSCompact : Except TokenError (JWSHeader × JWSPayload × Bytes) := do
  let (headerText, payloadText, signatureText) ← splitCompact token
  let headerBytes ← ofOption .malformed (library.rawURL headerText)
  let header ← ofOption .malformed (library.header headerBytes)
  let payloadBytes ← ofOption .malformed (library.rawURL payloadText)
  let payload ← ofOption .malformed (library.payload payloadBytes)
  let signature ← ofOption .malformed (library.rawURL signatureText)
  return (header, payload, signature)

/-- The text before the last dot. -/
def signingInputOf : Bytes := ((token.reverse.dropWhile (· ≠ dot)).drop 1).reverse

variable (token sql expectedPurpose : Bytes)

def validateJWSCompact : Except TokenError Bytes := do
  let (header, payload, signature) ← parseJWSCompact library token
  verifyPayloadAndHeader library validator now header payload sql expectedPurpose
  let address ← recoverAddressFromInput library (signingInputOf token) signature
  checkAllowlist validator address
  return address

/-- One signature of a JSON token; every one has to be accepted. -/
def validateJWSSignature (payloadText : Bytes) (payload : JWSPayload) (sql expectedPurpose : Bytes)
    (sig : JWSJSONSignature) : Except TokenError Bytes := do
  let headerBytes ← ofOption .malformed (library.rawURL sig.protectedHeader)
  let header ← ofOption .malformed (library.header headerBytes)
  verifyPayloadAndHeader library validator now header payload sql expectedPurpose
  let signature ← ofOption .malformed (library.rawURL sig.signature)
  let address ←
    recoverAddressFromInput library (sig.protectedHeader ++ dot :: payloadText) signature
  checkAllowlist validator address
  return address

/-- The payload that all signatures of a JSON token share. -/
def parseJWSJSON : Except TokenError (JWSJSON × JWSPayload) := do
  let jws ← ofOption .malformed (library.json token)
  check (jws.signatures ≠ []) .malformed
  let payloadBytes ← ofOption .malformed (library.rawURL jws.payload)
  let payload ← ofOption .malformed (library.payload payloadBytes)
  return (jws, payload)

def validateJWSJSON : Except TokenError Bytes := do
  let (jws, payload) ← parseJWSJSON library token
  let addresses ← jws.signatures.mapM
    (validateJWSSignature library validator now jws.payload payload sql expectedPurpose)
  ofOption .malformed addresses.head?

/-- Whether a token has the JSON form. -/
def isJSONToken : Bool := (trimUnicodeSpace token).head? = some leftBrace

def validateToken : Except TokenError Bytes :=
  if isJSONToken token then
    validateJWSJSON library validator now token sql expectedPurpose
  else
    validateJWSCompact library validator now token sql expectedPurpose

/-- Whether a signer is the co-located indexer. -/
def isIndexer : Bool :=
  validator.indexerAddress ≠ [] && equalFold address validator.indexerAddress

def isOperator : Bool :=
  validator.platformOperatorAddresses.contains (toLower address)

/-- A bypass that is asked for has to be granted. -/
def grant (asked granted : Bool) (failure : TokenError) : Except TokenError Bool := do
  check (!asked || granted) failure
  return asked

/-- The bypasses that an accepted signer asks for in the settings. -/
def grantBypasses (settings : Settings) (address : Bytes) : Except TokenError ValidationResult := do
  let maintenance ← grant (isMaintenance settings)
    (isIndexer validator address) (.maintenanceReserved address)
  let platformOperator ← grant (isPlatformOperator settings)
    (isOperator validator address) (.platformOperatorReserved address)
  let driver ← grant (isDriver settings) (isIndexer validator address) (.driverReserved address)
  return ⟨address, maintenance, platformOperator, driver⟩

variable (meta' : QueryMeta)

def validateQueryFor (expectedPurpose : Bytes) : Except TokenError ValidationResult :=
  if !validator.enabled then
    .ok .anonymous
  else
    match meta'.settings authTokenSettingKey with
    | none | some [] =>
      if validator.allowNoAuth then .ok .anonymous else .error .missingToken
    | some (first :: rest) => do
        let address ← validateToken library validator now
          (trimQuotes (first :: rest)) meta'.sql expectedPurpose
        grantBypasses validator meta'.settings address

def validateQuery : Except TokenError ValidationResult :=
  validateQueryFor library validator now meta' []

/-! ## Statement, control and peer tokens -/

/-- The first field of a list of comparisons that differs. -/
def firstMismatch (fields : List (String × Bool)) : Option String :=
  (fields.find? fun field => !field.2).map Prod.fst

def checkMismatch : Option String → Except TokenError Unit
  | none => .ok ()
  | some field => .error (.bindingMismatch field)

/-- The issue time is the one field that is not bound. -/
def statementPayloadV2Mismatch (got want : JWSStatementPayloadV2) : Option String := firstMismatch
    [("purpose", got.purpose == want.purpose), ("network_id", got.networkID == want.networkID),
      ("keeper_shard_id", got.keeperShardID == want.keeperShardID),
      ("statement_id", got.statementID == want.statementID),
      ("sql_hash", got.sqlHash == want.sqlHash),
      ("settings_hash", got.settingsHash == want.settingsHash),
      ("schema_hash", got.schemaHash == want.schemaHash),
      ("payload_hash", got.payloadHash == want.payloadHash),
      ("payload_length", got.payloadLength == want.payloadLength),
      ("payload_format", got.payloadFormat == want.payloadFormat),
      ("client_revision", got.clientRevision == want.clientRevision),
      ("target_table_id", got.targetTableID == want.targetTableID),
      ("row_id_profile_id", got.rowIDProfileID == want.rowIDProfileID),
      ("statement_kind", got.statementKind == want.statementKind)]

/-- `strings.Trim(strings.TrimSpace(token), "\"'")`. -/
def trimToken : Bytes := trimQuotes (trimUnicodeSpace token)

def decodeStatementV2Payload : Except TokenError JWSStatementPayloadV2 := do
  let (_, payloadText, _) ← splitCompact (trimToken token)
  let payloadBytes ← ofOption .malformed (library.canonicalRawURL payloadText)
  ofOption .malformed (library.payloadV2 payloadBytes)

def validateStatementV2 (want : JWSStatementPayloadV2) : Except TokenError Bytes := do
  let token := trimToken token
  let (headerText, payloadText, signatureText) ← splitCompact token
  let header ← ofOption .malformed (library.canonicalRawURL headerText)
  check (header = canonicalJWSProtectedHeader) .malformed
  let payload ← decodeStatementV2Payload library token
  check (payload.purpose = statementPurposeV2) .purposeMismatch
  tokenFreshness payload.iat now validator.maxTokenAge
  checkMismatch (statementPayloadV2Mismatch payload { want with purpose := statementPurposeV2 })
  let signature ← ofOption .malformed (library.canonicalRawURL signatureText)
  let address ← recoverAddressFromInput library (headerText ++ dot :: payloadText) signature
  checkAllowlist validator address
  return toLower address

/-- The parts of a token whose JSON has one encoding only. -/
def decodeCanonical (codec : JsonCodec α)
    (token : Bytes) : Except TokenError (α × Bytes × Bytes) := do
  let (headerText, payloadText, signatureText) ← splitCompact token
  let header ← ofOption .malformed (library.canonicalRawURL headerText)
  check (header = canonicalJWSProtectedHeader) .malformed
  let raw ← ofOption .malformed (library.canonicalRawURL payloadText)
  let payload ← ofOption .malformed (codec.unmarshal raw)
  let canonical ← ofOption .malformed (codec.marshal payload)
  check (raw = canonical) .malformed
  let sig ← ofOption .malformed (library.canonicalRawURL signatureText)
  check (sig.length = 65 && (sig.getLast? = some 27 || sig.getLast? = some 28)) .malformed
  check (library.validSignatureValues sig) .malformed
  return (payload, headerText ++ dot :: payloadText, sig)

def decodeStatementV3 : Except TokenError (JWSStatementPayloadV3 × Bytes × Bytes) :=
  decodeCanonical library library.payloadV3 token

def statementPayloadV3Mismatch (got want : JWSStatementPayloadV3) : Option String :=
  let g := got.binding
  let w := want.binding
  let gs := g.readSnapshot
  let ws := w.readSnapshot
  firstMismatch [("purpose", got.purpose == want.purpose),
      ("envelope_version", g.envelopeVersion == w.envelopeVersion),
      ("input_kind", g.inputKind == w.inputKind),
      ("client_account", g.clientAccount == w.clientAccount),
      ("statement_id", g.statementID == w.statementID),
      ("statement_kind", g.statementKind == w.statementKind),
      ("network_id", g.networkID == w.networkID),
      ("keeper_shard_id", g.keeperShardID == w.keeperShardID),
      ("sql_hash", g.sqlHash == w.sqlHash),
      ("settings_hash", g.settingsHash == w.settingsHash),
      ("target_table_id", g.targetTableID == w.targetTableID),
      ("schema_hash", g.schemaHash == w.schemaHash),
      ("row_id_profile_id", g.rowIDProfileID == w.rowIDProfileID),
      ("client_revision", g.clientRevision == w.clientRevision),
      ("read_snapshot.network_id", gs.networkID == ws.networkID),
      ("read_snapshot.keeper_shard_id", gs.keeperShardID == ws.keeperShardID),
      ("read_snapshot.snapshot_id", gs.snapshotID == ws.snapshotID),
      ("read_snapshot.safe_block_seq", gs.safeBlockSeq == ws.safeBlockSeq),
      ("read_snapshot.manifest_root", gs.manifestRoot == ws.manifestRoot),
      ("read_snapshot.state_root", gs.stateRoot == ws.stateRoot),
      ("read_snapshot.schema_snapshot_id", gs.schemaSnapshotID == ws.schemaSnapshotID),
      ("read_snapshot.schema_root", gs.schemaRoot == ws.schemaRoot),
      ("read_set_root", g.readSetRoot == w.readSetRoot),
      ("schema_snapshot_id", g.schemaSnapshotID == w.schemaSnapshotID),
      ("schema_root", g.schemaRoot == w.schemaRoot),
      ("logical_database", g.logicalDatabase == w.logicalDatabase),
      ("query_profile_id", g.queryProfileID == w.queryProfileID),
      ("executor_profile_id", g.executorProfileID == w.executorProfileID),
      ("reservation_id", g.reservationID == w.reservationID),
      ("fencing_generation", g.fencingGeneration == w.fencingGeneration),
      ("input_root", got.inputRoot == want.inputRoot)]

def snapshotQueryEnvelopeVersion : Nat := 3

def snapshotQueryInputKind : Bytes := ascii "snapshot_query"

def snapshotQueryStatementKind : Nat := 2

def verifyStatementV3 (want : JWSStatementPayloadV3) :
    Except TokenError (Bytes × JWSStatementPayloadV3) := do
  let (payload, input, sig) ← decodeStatementV3 library token
  check (payload.purpose = statementPurposeV3) .purposeMismatch
  checkMismatch (statementPayloadV3Mismatch payload want)
  check (payload.binding.envelopeVersion = snapshotQueryEnvelopeVersion)
    (.invalidBinding "envelope_version")
  check (payload.binding.inputKind = snapshotQueryInputKind) (.invalidBinding "input_kind")
  check (payload.binding.statementKind = snapshotQueryStatementKind)
    (.invalidBinding "statement_kind")
  let account ← recoverAddressFromInput library input sig
  check (account = payload.binding.clientAccount) .clientAccountMismatch
  return (account, payload)

/-- An empty allowlist admits every account; an account is lowercase. -/
def checkAccountAllowlist (account : Bytes) : Except TokenError Unit := check
    (validator.allowedAddresses = [] || validator.allowedAddresses.contains account)
    (.notInAllowlist account)

def validateStatementV3 (want : JWSStatementPayloadV3) : Except TokenError Bytes := do
  let (account, payload) ← verifyStatementV3 library token want
  statementV3Freshness payload.iat now validator.maxTokenAge
  checkAccountAllowlist validator account
  return account

def decodeSnapshotQueryControl :
    Except TokenError (SnapshotQueryControlPayloadV1 × Bytes × Bytes) :=
  decodeCanonical library library.control token

def validSnapshotQueryControlOperation (operation : Bytes) : Bool :=
  operation = ascii "acquire" || operation = ascii "lookup" || operation = ascii "release"

def snapshotQueryControlBindingMismatch (got want : SnapshotQueryControlBinding) : Option String :=
  firstMismatch [("operation", got.operation == want.operation),
      ("network_id", got.networkID == want.networkID),
      ("keeper_shard_id", got.keeperShardID == want.keeperShardID),
      ("client_account", got.clientAccount == want.clientAccount),
      ("statement_id", got.statementID == want.statementID),
      ("request_id", got.requestID == want.requestID),
      ("reservation_id", got.reservationID == want.reservationID),
      ("fencing_generation", got.fencingGeneration == want.fencingGeneration)]

variable (want : SnapshotQueryControlBinding)

def verifySnapshotQueryControlSignature : Except TokenError Bytes := do
  let (payload, input, sig) ← decodeSnapshotQueryControl library token
  check (payload.purpose = snapshotQueryControlPurposeV1) .purposeMismatch
  check (validSnapshotQueryControlOperation payload.binding.operation &&
      validSnapshotQueryControlOperation want.operation)
    .invalidOperation
  checkMismatch (snapshotQueryControlBindingMismatch payload.binding want)
  let account ← recoverAddressFromInput library input sig
  check (account = payload.binding.clientAccount) .clientAccountMismatch
  return account

def validateSnapshotQueryControl : Except TokenError Bytes := do
  let account ← verifySnapshotQueryControlSignature library token want
  let (payload, _, _) ← decodeSnapshotQueryControl library token
  snapshotQueryControlFreshness payload.iat now validator.maxTokenAge
  checkAccountAllowlist validator account
  return account

def checkPeerSigner : Except TokenError Unit :=
  if validator.allowedAddresses ≠ [] then
    check (validator.allowedAddresses.contains (toLower address)) (.peerRefused address)
  else
    match validator.peerSigners with
    | none => .error (.peerRefused address)
    | some isIndexerSigner => check (isIndexerSigner address) (.peerRefused address)

/-- The payload of a peer token, once its header names the algorithm. -/
def decodePeerPayload : Except TokenError JWSPeerPayload := do
  let (headerText, payloadText, _) ← splitCompact (trimQuotes token)
  let headerBytes ← ofOption .malformed (library.rawURL headerText)
  let header ← ofOption .malformed (library.header headerBytes)
  check (isSupportedAlgorithm header.alg) (.unsupportedAlgorithm header.alg)
  let payloadBytes ← ofOption .malformed (library.rawURL payloadText)
  ofOption .malformed (library.peerPayload payloadBytes)

def validatePeerLogin (token expectedAudience : Bytes) : Except TokenError Bytes := do
  let (headerText, payloadText, signatureText) ← splitCompact (trimQuotes token)
  let payload ← decodePeerPayload library token
  check (payload.purpose = peerLoginPurpose) .purposeMismatch
  check (payload.aud = expectedAudience) .audienceMismatch
  peerFreshness payload.iat payload.exp now
  let signature ← ofOption .malformed (library.rawURL signatureText)
  let address ← recoverAddressFromInput library (headerText ++ dot :: payloadText) signature
  checkPeerSigner validator address
  return address

end Validators

end HouseGate.EthValidator
