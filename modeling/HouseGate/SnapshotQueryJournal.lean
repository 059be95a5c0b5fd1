import HouseGate.DecimalText

namespace HouseGate.SnapshotQuery

open DecimalText

/-!
# Snapshot-query envelopes and their journal record

The frozen snapshot-query contract, the record the intake journal keeps for a
statement, and the checks that compare a record with an envelope or with an
answer of the sequencer.  Texts are byte strings and unsigned integers are
natural numbers; nothing here computes with them.
-/

/-- The snapshot that a query reads. -/
structure SnapshotPin where
  networkID : Bytes
  keeperShardID : Nat
  snapshotID : Bytes
  safeBlockSeq : Nat
  manifestRoot : Bytes
  stateRoot : Bytes
  schemaSnapshotID : Bytes
  schemaRoot : Bytes
  deriving DecidableEq, Inhabited

/-- A part that a query may read. -/
structure SnapshotReadPart where
  tableID : Bytes
  partitionID : Bytes
  partName : Bytes
  partPhysHash : Bytes
  partRowLtHash : Bytes
  rowCount : Nat
  bytes : Nat

/-- The root of one partition. -/
structure PartitionCommitment where
  tableID : Bytes
  partitionID : Bytes
  root : Bytes

/-- A table that a query may read. -/
structure SnapshotReadTable where
  database : Bytes
  table : Bytes
  tableID : Bytes
  schemaHash : Bytes
  partitionRoots : List PartitionCommitment
  activeParts : List SnapshotReadPart

/-- All that a query may read. -/
structure SnapshotReadSet where
  readSnapshot : SnapshotPin
  tables : List SnapshotReadTable
  deriving Inhabited

/-- The fields that a query's token signs. -/
structure SnapshotQueryBinding where
  envelopeVersion : Nat
  inputKind : Bytes
  clientAccount : Bytes
  statementID : Bytes
  statementKind : Nat
  networkID : Bytes
  keeperShardID : Nat
  sqlHash : Bytes
  settingsHash : Bytes
  targetTableID : Bytes
  schemaHash : Bytes
  rowIDProfileID : Bytes
  clientRevision : Nat
  readSnapshot : SnapshotPin
  readSetRoot : Bytes
  schemaSnapshotID : Bytes
  schemaRoot : Bytes
  logicalDatabase : Bytes
  queryProfileID : Bytes
  executorProfileID : Bytes
  reservationID : Bytes
  fencingGeneration : Nat
  deriving Inhabited

/-- A query with what it is bound to. -/
structure SnapshotQueryInput where
  binding : SnapshotQueryBinding
  sql : Bytes
  readSet : SnapshotReadSet
  deriving Inhabited

/-- A query under its user's token. -/
structure SnapshotQueryEnvelope where
  input : SnapshotQueryInput
  inputRoot : Bytes
  userJWS : Bytes
  deriving Inhabited

/-- The keeper's reservation for a query. -/
structure SnapshotQueryReservation where
  reservationID : Bytes
  fencingGeneration : Nat
  clientAccount : Bytes
  statementID : Bytes
  readSnapshot : SnapshotPin
  executorProfileID : Bytes
  queryProfileID : Bytes
  activationID : Bytes
  deriving DecidableEq, Inhabited

/-- The keeper's answer to a submission. -/
structure SnapshotQuerySubmitResult where
  admissionCode : Nat
  message : Bytes
  statementSeq : Nat
  blockSeq : Nat
  sourceNode : Bytes
  inputRoot : Bytes
  reservation : SnapshotQueryReservation
  deriving DecidableEq, Inhabited

/-- The keeper's answer to a lookup. -/
structure SnapshotQueryStatus where
  version : Nat
  found : Bool
  accepted : SnapshotQuerySubmitResult
  lifecycle : Bytes
  executionOutcome : Bytes
  terminalProof : Bytes
  deriving Inhabited

/-- A durable boundary of the intake, never an inferred status. -/
inductive SnapshotQueryJournalStage where
  | signed
  | submitIntent
  | forwardAuthorized
  | submitAuthorized
  | submitAuthorizationUnknown
  | submitUnknown
  | sequenced
  | preparedOutput
  | rejected
  | cancelPending
  | released
  deriving DecidableEq

namespace SnapshotQueryJournalStage

/-- Stages that may only be looked up and fenced. -/
def intentOnly : SnapshotQueryJournalStage → Bool
  | .signed | .submitIntent | .forwardAuthorized
  | .submitAuthorizationUnknown | .cancelPending | .released => true
  | _ => false

/-- Stages whose recovery may call the sequencer's submit. -/
def grantsSubmit : SnapshotQueryJournalStage → Bool
  | .submitAuthorized | .submitUnknown => true
  | _ => false

end SnapshotQueryJournalStage

/-- The keeper's leave to execute. -/
structure SnapshotQueryLaunchAuthorization where
  inputRoot : Bytes
  originalJWSHash : Bytes
  reservationID : Bytes
  fencingGeneration : Nat

/-- The two texts a prepared projection must carry. -/
inductive PreparedStatus where
  | pendingUnsubmitted
  | other (text : Bytes)
  deriving DecidableEq

/-- The output that a source has staged. -/
structure SnapshotQueryPrepared where
  statementID : Bytes
  inputRoot : Bytes
  blockSeq : Nat
  fencingGeneration : Nat
  outputRowsRoot : Bytes
  outputRowCount : Nat
  touchedPartitionIDs : List Bytes
  status : PreparedStatus
  capacityReservationID : Bytes
  candidates : List SnapshotReadPart
  sourceClaimRoot : Bytes
  stage : Option SnapshotQueryJournalStage
  computedStateRoot : Bytes
  cachePath : Bytes
  cacheDigest : Bytes

def snapshotQueryJournalVersion : Nat := 2

/-- The journal's record of a query. -/
structure SnapshotQueryJournalRecord where
  version : Nat
  statementID : Bytes
  envelope : SnapshotQueryEnvelope
  stage : SnapshotQueryJournalStage
  submit : SnapshotQuerySubmitResult
  hasSubmit : Bool
  submitUnknown : Bool
  preSubmitCancelIntent : Bool
  releaseReconciliationDebt : Bool
  launchAuthorization : Option SnapshotQueryLaunchAuthorization
  forwardAuthorization : Option SnapshotQueryLaunchAuthorization
  preparedOutput : Option SnapshotQueryPrepared

/-- Why the intake stopped. -/
inductive IntakeError where
  | originalJWSRequired
  | invalidInput
  | inputRootMismatch
  | validateJWS
  | verifyHistoricalJWS
  | contextDone
  | readJournal
  | saveJournal
  | journalVersion (version : Nat)
  | journalIdentityRequired
  | journalProjectionRequired
  | journalProjectionStage
  | identityConflict
  | launchAuthorizationUnbound
  | forwardAuthorizationUnbound
  | admissionRejected (code : Nat) (message : Bytes)
  | admissionUnknown (code : Nat)
  | acceptedIdentityMismatch
  | cannotPersistIntent (stage : SnapshotQueryJournalStage)
  | cannotAuthorizeForward (stage : SnapshotQueryJournalStage)
  | cannotAuthorizeSubmit (stage : SnapshotQueryJournalStage)
  | cannotCancel (stage : SnapshotQueryJournalStage)
  | cannotPersistUnknown (stage : SnapshotQueryJournalStage)
  | submitRequiresAuthorization (stage : SnapshotQueryJournalStage)
  | preparedNotSequenced
  | invalidPreparedProjection
  | noncanonicalPartitions
  | preparedCache
  | sequencerLookup
  | sequencerSubmit
  | reconcileIntent
  | joined (first second : IntakeError)
  deriving DecidableEq

/-- Digests and signature checks the intake computes with. -/
structure Crypto where
  inputRoot : SnapshotQueryInput → Option Bytes
  digestString : Bytes → Bytes
  verifySignature : Bytes → SnapshotQueryBinding → Bytes → Bool

section Records

variable (crypto : Crypto)
  (env : SnapshotQueryEnvelope)

def newSnapshotQueryRecord : SnapshotQueryJournalRecord where
  version := snapshotQueryJournalVersion
  statementID := env.input.binding.statementID
  envelope := env
  stage := .signed
  submit := default
  hasSubmit := false
  submitUnknown := false
  preSubmitCancelIntent := false
  releaseReconciliationDebt := false
  launchAuthorization := none
  forwardAuthorization := none
  preparedOutput := none

def newSnapshotQueryRecordAtIntent : SnapshotQueryJournalRecord :=
  { newSnapshotQueryRecord env with stage := .submitIntent }

def snapshotQueryLaunchAuthorization : SnapshotQueryLaunchAuthorization where
  inputRoot := env.inputRoot
  originalJWSHash := crypto.digestString env.userJWS
  reservationID := env.input.binding.reservationID
  fencingGeneration := env.input.binding.fencingGeneration

/-- Whether an authorization binds the identity of an envelope. -/
def authorizationBinds : Option SnapshotQueryLaunchAuthorization → Bool
  | none => false
  | some authorization =>
    authorization.inputRoot == env.inputRoot &&
      authorization.originalJWSHash == crypto.digestString env.userJWS &&
      authorization.reservationID == env.input.binding.reservationID &&
      authorization.fencingGeneration == env.input.binding.fencingGeneration

variable (record : SnapshotQueryJournalRecord)

def verifyLaunchAuthorization : Except IntakeError Unit :=
  if authorizationBinds crypto record.envelope record.launchAuthorization then
    .ok ()
  else
    .error .launchAuthorizationUnbound

def verifyForwardAuthorization : Except IntakeError Unit :=
  if authorizationBinds crypto record.envelope record.forwardAuthorization then
    .ok ()
  else
    .error .forwardAuthorizationUnbound

def matchSnapshotQueryIdentity (env : SnapshotQueryEnvelope) : Except IntakeError Unit :=
  if record.envelope.inputRoot ≠ env.inputRoot ∨ record.envelope.userJWS ≠ env.userJWS then
    .error .identityConflict
  else
    .ok ()

def snapshotQueryAdmissionAccepted : Nat := 1

def isSnapshotQueryTerminalRejection (code : Nat) : Bool := 2 ≤ code && code ≤ 8

variable (result : SnapshotQuerySubmitResult)

def snapshotQueryAdmissionError : IntakeError :=
  if isSnapshotQueryTerminalRejection result.admissionCode then
    .admissionRejected result.admissionCode result.message
  else
    .admissionUnknown result.admissionCode

def validateSnapshotQueryAccepted : Except IntakeError Unit :=
  let binding := env.input.binding
  let reservation := result.reservation
  if result.admissionCode ≠ snapshotQueryAdmissionAccepted then
    .error (snapshotQueryAdmissionError result)
  else if result.inputRoot ≠ env.inputRoot ∨ result.statementSeq = 0 ∨ result.blockSeq = 0 ∨
      result.sourceNode = [] ∨
      reservation.reservationID ≠ binding.reservationID ∨
      reservation.fencingGeneration ≠ binding.fencingGeneration ∨
      reservation.clientAccount ≠ binding.clientAccount ∨
      reservation.statementID ≠ binding.statementID ∨
      reservation.readSnapshot ≠ binding.readSnapshot ∨
      reservation.executorProfileID ≠ binding.executorProfileID ∨
      reservation.queryProfileID ≠ binding.queryProfileID then
    .error .acceptedIdentityMismatch
  else
    .ok ()

/-- Nonempty partition names in strictly ascending byte order. -/
def canonicalPartitions : List Bytes → Bool
  | [] => true
  | [partition] => partition != []
  | partition :: later :: rest =>
    partition != [] && decide (partition < later) && canonicalPartitions (later :: rest)

def validateSnapshotQueryPrepared (accepted : SnapshotQuerySubmitResult)
    (prepared : SnapshotQueryPrepared) : Except IntakeError Unit :=
  let binding := env.input.binding
  if prepared.statementID ≠ binding.statementID ∨ prepared.inputRoot ≠ env.inputRoot ∨
      prepared.blockSeq ≠ accepted.blockSeq ∨
      prepared.fencingGeneration ≠ binding.fencingGeneration ∨
      prepared.outputRowsRoot = [] ∨
      prepared.computedStateRoot = [] ∨
      prepared.cachePath = [] ∨
      prepared.cacheDigest = [] ∨
      prepared.stage ≠ some .preparedOutput ∨
      prepared.status ≠ .pendingUnsubmitted ∨
      prepared.capacityReservationID ≠ [] ∨
      prepared.sourceClaimRoot ≠ [] ∨ prepared.candidates ≠ [] then
    .error .invalidPreparedProjection
  else if canonicalPartitions prepared.touchedPartitionIDs then
    .ok ()
  else
    .error .noncanonicalPartitions

/-- The checks made whenever a record is written or read. -/
def validateSnapshotQueryJournalRecord : Except IntakeError Unit :=
  if record.version ≠ snapshotQueryJournalVersion then
    .error (.journalVersion record.version)
  else if record.statementID = [] ∨
      record.statementID ≠ record.envelope.input.binding.statementID then
    .error .journalIdentityRequired
  else
    match record.preparedOutput with
    | none =>
      if record.stage = .preparedOutput then .error .journalProjectionRequired else .ok ()
    | some prepared =>
      if record.stage ≠ .preparedOutput then
        .error .journalProjectionStage
      else
        validateSnapshotQueryPrepared record.envelope record.submit prepared

end Records

/-- The authorization made from an envelope binds that envelope. -/
@[simp] theorem authorizationBinds_launchAuthorization
    (crypto : Crypto) (env : SnapshotQueryEnvelope) :
    authorizationBinds crypto env (some (snapshotQueryLaunchAuthorization crypto env)) = true := by
  simp [authorizationBinds, snapshotQueryLaunchAuthorization]

end HouseGate.SnapshotQuery
