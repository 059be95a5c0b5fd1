import HouseGate.PayloadExecutor

namespace HouseGate.Replay

open DecimalText JsonDocument
open AsciiText (ascii)

/-!
# The replay verifier

A job is checked for its shape, its base manifest and payloads are loaded and
checked, the schema hash that every statement was signed with is compared with
the local one, and only then is the block executed.  What the verifier signs is
a receipt; a schema mismatch is signed as evidence without an execution.  The
events of a verification are the execution and the signature, in order.
-/

section Receipts

/-- What a verifier found for a block. -/
structure ExecutionReceipt where
  blockSeq : UInt64
  prevSafeSnapshotID : Bytes
  prevStateRoot : Bytes
  schemaSnapshotID : Bytes
  executorProfileID : Bytes
  statementRoot : Bytes
  payloadRoot : Bytes
  sourceClaimRoot : Bytes
  computedStateRoot : Bytes
  matchSourceRoot : Bool
  partitionCommitmentsAfter : List PartitionCommitment
  affectedParts : List PartManifestEntry
  replayLogHash : Bytes

def ExecutionReceipt.json (receipt : ExecutionReceipt) : Json := .object ([
    ("block_seq", uintJson receipt.blockSeq),
    ("prev_safe_snapshot_id", .text receipt.prevSafeSnapshotID),
    ("prev_state_root", .text receipt.prevStateRoot),
    ("schema_snapshot_id", .text receipt.schemaSnapshotID),
    ("executor_profile_id", .text receipt.executorProfileID),
    ("statement_root", .text receipt.statementRoot),
    ("payload_root", .text receipt.payloadRoot),
    ("source_claim_root", .text receipt.sourceClaimRoot),
    ("computed_state_root", .text receipt.computedStateRoot),
    ("match_source_root", .bool receipt.matchSourceRoot)] ++
    omitEmptySlice "partition_commitments_after" PartitionCommitment.json
      receipt.partitionCommitmentsAfter ++
    omitEmptySlice "affected_parts" PartManifestEntry.json receipt.affectedParts ++
    omitEmptyText "replay_log_hash" receipt.replayLogHash)

def receiptDomain : Bytes := ascii "replay-execution-receipt"

variable (sum256 : Bytes → Bytes)

def ExecutionReceipt.hash (receipt : ExecutionReceipt) : Bytes :=
  canonicalDigest sum256 receiptDomain receipt.json

/-- A receipt under a replica's signature. -/
structure ReplayAttestation where
  replicaID : Bytes
  receipt : ExecutionReceipt
  receiptHash : Bytes
  signature : Bytes
  matchSourceRoot : Bool

/-- What the statement root holds of a statement. -/
def Statement.commitmentJson (statement : Statement) : Json := .object ([
    ("statement_id", .text statement.statementID),
    ("statement_seq", uintJson statement.statementSeq),
    ("sql_hash", .text statement.sqlHash),
    ("settings_hash", .text statement.settingsHash)] ++
    omitEmptyText "payload_ref" statement.payloadRef ++
    omitEmptyText "payload_hash" statement.payloadHash ++
    (if statement.payloadLength = 0 then []
      else [("payload_length", uintJson statement.payloadLength)]) ++
    [("target_table_id", .text statement.targetTableID)] ++
    omitEmptyText "payload_format" statement.payloadFormat ++
    (if statement.clientRevision = 0 then []
      else [("client_revision", .number statement.clientRevision.toNat)]) ++
    omitEmptyText "schema_hash" statement.schemaHash)

def statementRoot (statements : List Statement) : Bytes :=
  canonicalDigest sum256 (ascii "replay-statement-root")
    (.array (statements.map Statement.commitmentJson))

/-- What the payload root holds of a statement. -/
def Statement.payloadJson (statement : Statement) : Json := .object (
    ("statement_id", .text statement.statementID) ::
    (omitEmptyText "payload_ref" statement.payloadRef ++
      omitEmptyText "payload_hash" statement.payloadHash))

def payloadRoot (prepared : List PreparedStatement) : Bytes :=
  canonicalDigest sum256 (ascii "replay-payload-root")
    (.array (prepared.map fun entry => entry.statement.payloadJson))

end Receipts

section Verifier

/--
Where the local schema hashes come from: any plain source, or the configured
schemas to which the schemas that a job carries are added.
-/
inductive SchemaHashSource where
  | plain (tableSchemaHash : Bytes → Option Bytes)
  | forJob (networkID : Bytes) (tables : List TableSchema)

/-- What a verifier has to work with. -/
structure Verifier (α : Type) where
  snapshots : Bytes → Option SafeSnapshotManifest
  payloads : Bytes → Option Bytes
  executor : Executor α
  signer : Bytes → Option (Bytes × Bytes)
  schemaHashes : SchemaHashSource

/-- Why a job was not attested. -/
inductive VerifyRefusal where
  | blockSeqRequired
  | prevFieldsApart
  | schemaSnapshotIDRequired
  | executorProfileIDRequired
  | sourceClaimRootRequired
  | statementsRequired
  | tableSchemasUnsorted
  | statementIDRequired
  | duplicateStatementID
  | statementSeqOrder
  | sqlRequired
  | sqlHashMismatch
  | settingsHashRequired
  | targetTableIDRequired
  | payloadFormat
  | clientRevisionRequired
  | schemaHashRequired
  | payloadHashWithoutRef
  | payloadHashRequired
  | transitionWithStatements
  | transitionWithTableSchemas
  | transitionShape
  | snapshotNotFound
  | snapshotInvalid (reason : ManifestRefusal)
  | snapshotIDMismatch
  | prevStateRootMismatch
  | genesisNotEmpty
  | schemaSnapshotIDMismatch
  | executorProfileIDMismatch
  | blockSeqNotGreater
  | payloadNotFound
  | payloadLengthMismatch
  | payloadHashMismatch
  | jobSchemas (reason : ApplyRefusal)
  | noLocalSchema
  | execution (reason : ApplyRefusal)
  | executorResultMismatch
  | signerFailed
  | signerEmpty

/-- What a verification did on its way. -/
inductive VerifyEvent where
  | replayed (prepared : List PreparedStatement)
  | signed (receipt : ExecutionReceipt)

/-- The events of a verification and its answer. -/
structure Verification where
  events : List VerifyEvent
  answer : Except VerifyRefusal ReplayAttestation

variable {α : Type} (primitives : Primitives α) (verifier : Verifier α)

def payloadFormatClickHouseNativeData : Bytes := ascii "clickhouse-native-data-v1"

/-- The checks on one statement, those on its id and number apart. -/
def checkStatementFields (statement : Statement) : Except VerifyRefusal Unit :=
  if statement.sql = [] then
    .error .sqlRequired
  else if statement.sqlHash ≠ digestBytes primitives.sum256 statement.sql then
    .error .sqlHashMismatch
  else if statement.settingsHash = [] then
    .error .settingsHashRequired
  else if statement.targetTableID = [] then
    .error .targetTableIDRequired
  else if statement.payloadFormat ≠ payloadFormatClickHouseNativeData then
    .error .payloadFormat
  else if statement.clientRevision = 0 then
    .error .clientRevisionRequired
  else if statement.schemaHash = [] then
    .error .schemaHashRequired
  else if statement.payloadRef = [] then
    if statement.payloadHash ≠ [] ∨ statement.payloadLength ≠ 0 then
      .error .payloadHashWithoutRef
    else
      .ok ()
  else if statement.payloadHash = [] then
    .error .payloadHashRequired
  else
    .ok ()

def checkStatements : List Bytes → UInt64 → List Statement → Except VerifyRefusal Unit
  | _, _, [] => .ok ()
  | seen, lastSeq, statement :: rest =>
    if statement.statementID = [] then
      .error .statementIDRequired
    else if statement.statementID ∈ seen then
      .error .duplicateStatementID
    else if statement.statementSeq = 0 ∨ statement.statementSeq ≤ lastSeq then
      .error .statementSeqOrder
    else do
      checkStatementFields primitives statement
      checkStatements (statement.statementID :: seen) statement.statementSeq rest

variable (job : ReplayJob)

def validateTransitionJobShape (transition : ReplayTableSetTransition) :
    Except VerifyRefusal Unit :=
  if job.statements ≠ [] then
    .error .transitionWithStatements
  else if job.tableSchemas ≠ [] then
    .error .transitionWithTableSchemas
  else if transition.isCanonical = false then
    .error .transitionShape
  else
    .ok ()

def validateJobShape : Except VerifyRefusal Unit :=
  if job.blockSeq = 0 then
    .error .blockSeqRequired
  else if job.prevSafeSnapshotID.isEmpty != job.prevStateRoot.isEmpty then
    .error .prevFieldsApart
  else if job.schemaSnapshotID = [] then
    .error .schemaSnapshotIDRequired
  else if job.executorProfileID = [] then
    .error .executorProfileIDRequired
  else
    match job.tableSetTransition with
    | some transition => validateTransitionJobShape job transition
    | none =>
      if job.sourceClaimRoot = [] then
        .error .sourceClaimRootRequired
      else if job.statements = [] then
        .error .statementsRequired
      else if replayTableSchemasOrdered [] job.tableSchemas = false then
        .error .tableSchemasUnsorted
      else
        checkStatements primitives [] 0 job.statements

/-- A manifest whose tables hold neither partitions nor parts. -/
def SafeSnapshotManifest.isEmptyGenesis (manifest : SafeSnapshotManifest) : Bool :=
  manifest.safeBlockSeq == 0 &&
    manifest.tables.all fun table => table.partitionRoots.isEmpty && table.activeParts.isEmpty

/-- The locally derived base of a job that names no manifest. -/
def Verifier.genesisSnapshot : Except VerifyRefusal SafeSnapshotManifest :=
  let base :=
    verifier.executor.genesisSnapshot primitives 0 job.schemaSnapshotID job.executorProfileID
  match base.validate primitives.sum256 with
  | .error reason => .error (.snapshotInvalid reason)
  | .ok () =>
    if base.isEmptyGenesis = false then .error .genesisNotEmpty else .ok base

def Verifier.resolvePrevSafeSnapshot : Except VerifyRefusal SafeSnapshotManifest :=
  if job.prevSafeSnapshotID = [] then
    verifier.genesisSnapshot primitives job
  else
    match verifier.snapshots job.prevSafeSnapshotID with
    | none => .error .snapshotNotFound
    | some base =>
      match base.validate primitives.sum256 with
      | .error reason => .error (.snapshotInvalid reason)
      | .ok () =>
        if base.snapshotID ≠ job.prevSafeSnapshotID then
          .error .snapshotIDMismatch
        else if base.stateRoot ≠ job.prevStateRoot then
          .error .prevStateRootMismatch
        else
          .ok base

def Verifier.prevSafeSnapshot : Except VerifyRefusal SafeSnapshotManifest := do
  let base ← verifier.resolvePrevSafeSnapshot primitives job
  if base.schemaSnapshotID ≠ job.schemaSnapshotID then
    .error .schemaSnapshotIDMismatch
  else if base.executorProfileID ≠ job.executorProfileID then
    .error .executorProfileIDMismatch
  else
    .ok base

/-- Load the payload of one statement and compare length and digest. -/
def Verifier.prepareStatement (statement : Statement) : Except VerifyRefusal PreparedStatement :=
  if statement.payloadRef = [] then
    .ok { statement := statement, payload := [] }
  else
    match verifier.payloads statement.payloadRef with
    | none => .error .payloadNotFound
    | some payload =>
      if payload.length ≠ statement.payloadLength.toNat then
        .error .payloadLengthMismatch
      else if digestBytes primitives.sum256 payload ≠ statement.payloadHash then
        .error .payloadHashMismatch
      else
        .ok { statement := statement, payload := payload }

def Verifier.prepareStatements (statements : List Statement) :
    Except VerifyRefusal (List PreparedStatement) :=
  statements.mapM (verifier.prepareStatement primitives)

/-- The schema hashes of a job, by table id. -/
def Verifier.localSchemaHash : Except VerifyRefusal (Bytes → Option Bytes) :=
  match verifier.schemaHashes with
  | .plain tableSchemaHash => .ok tableSchemaHash
  | .forJob networkID tables =>
    match resolveJobSchemas primitives tables job with
    | .error reason => .error (.jobSchemas reason)
    | .ok schemas =>
      .ok fun tableID => (schemas.lookup tableID).map (tableSchemaHash primitives networkID)

/-- A statement that was signed with another schema hash. -/
structure SchemaMismatch where
  index : Nat
  statement : Statement
  localHash : Bytes

/-- The first statement whose schema hash is not the local one. -/
def firstSchemaMismatch (localHash : Bytes → Option Bytes) :
    Nat → List Statement → Except VerifyRefusal (Option SchemaMismatch)
  | _, [] => .ok none
  | index, statement :: rest =>
    match localHash statement.targetTableID with
    | none => .error .noLocalSchema
    | some hash =>
      if hash ≠ statement.schemaHash then
        .ok (some {
          index := index
          statement := statement
          localHash := hash })
      else
        firstSchemaMismatch localHash (index + 1) rest

/-- Everything before the execution. -/
structure Admitted where
  base : SafeSnapshotManifest
  prepared : List PreparedStatement
  mismatch : Option SchemaMismatch

def Verifier.checkAdmission : Except VerifyRefusal Admitted := do
  validateJobShape primitives job
  let base ← verifier.prevSafeSnapshot primitives job
  if job.blockSeq ≤ base.safeBlockSeq then
    .error .blockSeqNotGreater
  else
    let prepared ← verifier.prepareStatements primitives job.statements
    let localHash ← verifier.localSchemaHash primitives job
    let mismatch ← firstSchemaMismatch localHash 0 job.statements
    return { base, prepared, mismatch }

def mismatchJson (mismatch : SchemaMismatch) : Json := .object [
    ("statement_index", .number mismatch.index),
    ("statement_id", .text mismatch.statement.statementID),
    ("table_id", .text mismatch.statement.targetTableID),
    ("signed_schema_hash", .text mismatch.statement.schemaHash),
    ("local_schema_hash", .text mismatch.localHash)]

variable (prepared : List PreparedStatement)

/-- The receipt that is signed for a schema mismatch. -/
def mismatchReceipt (mismatch : SchemaMismatch) : ExecutionReceipt :=
  { blockSeq := job.blockSeq
    prevSafeSnapshotID := job.prevSafeSnapshotID
    prevStateRoot := job.prevStateRoot
    schemaSnapshotID := job.schemaSnapshotID
    executorProfileID := job.executorProfileID
    statementRoot := statementRoot primitives.sum256 job.statements
    payloadRoot := payloadRoot primitives.sum256 prepared
    sourceClaimRoot := job.sourceClaimRoot
    computedStateRoot := []
    matchSourceRoot := false
    partitionCommitmentsAfter := []
    affectedParts := []
    replayLogHash := canonicalDigest primitives.sum256
        (ascii "replay-schema-hash-mismatch") (mismatchJson mismatch) }

/-- The receipt of an executed block. -/
def executedReceipt (result : ExecutionResult) : ExecutionReceipt :=
  { blockSeq := job.blockSeq
    prevSafeSnapshotID := job.prevSafeSnapshotID
    prevStateRoot := job.prevStateRoot
    schemaSnapshotID := job.schemaSnapshotID
    executorProfileID := job.executorProfileID
    statementRoot := statementRoot primitives.sum256 job.statements
    payloadRoot := payloadRoot primitives.sum256 prepared
    sourceClaimRoot := job.sourceClaimRoot
    computedStateRoot := result.computedStateRoot
    matchSourceRoot := decide (result.computedStateRoot = job.sourceClaimRoot)
    partitionCommitmentsAfter := result.partitionCommitmentsAfter
    affectedParts := result.affectedParts
    replayLogHash := result.replayLogHash }

def validateExecutionResult (result : ExecutionResult) : Bool :=
  result.blockSeq == job.blockSeq && result.prevSafeSnapshotID == job.prevSafeSnapshotID &&
    result.prevStateRoot == job.prevStateRoot &&
    result.schemaSnapshotID == job.schemaSnapshotID &&
    result.executorProfileID == job.executorProfileID &&
    result.computedStateRoot != []

/-- Sign a receipt and attest it, after the events so far. -/
def Verifier.sign (events : List VerifyEvent) (receipt : ExecutionReceipt) : Verification :=
  let receiptHash := receipt.hash primitives.sum256
  match verifier.signer receiptHash with
  | none => { events := events, answer := .error .signerFailed }
  | some (replicaID, signature) =>
    { events := events ++ [.signed receipt]
      answer :=
        if replicaID = [] ∨ signature = [] then
          .error .signerEmpty
        else
          .ok {
            replicaID := replicaID
            receipt := receipt
            receiptHash := receiptHash
            signature := signature
            matchSourceRoot := receipt.matchSourceRoot } }

/-- `Executor.Replay` on what was admitted, then the signature. -/
def Verifier.executeAndSign (admitted : Admitted) : Verification :=
  let events := [.replayed admitted.prepared]
  match verifier.executor.applyContext primitives admitted.base job admitted.prepared with
  | .error reason => { events := events, answer := .error (.execution reason) }
  | .ok (_, result) =>
    if validateExecutionResult job result = false then
      { events := events, answer := .error .executorResultMismatch }
    else
      verifier.sign primitives events (executedReceipt primitives job admitted.prepared result)

def Verifier.verify : Verification :=
  match verifier.checkAdmission primitives job with
  | .error reason => { events := [], answer := .error reason }
  | .ok admitted =>
    match admitted.mismatch with
    | some mismatch =>
      verifier.sign primitives [] (mismatchReceipt primitives job admitted.prepared mismatch)
    | none => verifier.executeAndSign primitives job admitted

end Verifier

end HouseGate.Replay
