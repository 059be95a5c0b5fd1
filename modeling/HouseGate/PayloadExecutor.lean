import HouseGate.LtHash
import HouseGate.MapFolds
import HouseGate.ReplayManifest

namespace HouseGate.Replay

open DecimalText KeyedSort LtHash CheckedSteps MapFolds TableManifest
open AsciiText (ascii)

/-!
# The payload-local executor

A block is replayed by appending materialized rows to the ledger of the
previous safe manifest: the rows of a statement are grouped by partition into
parts, every partition root is recomputed as the sum of its parts, and the
result is sealed as the next manifest.  A table-set transition retires and adds
whole tables instead of appending rows.

Hash functions, the rendering of values and the decoder of carried schemas are
parameters.  A stream of rows ends with its end-of-stream mark or with a
failure, which also stands for a cancelled context.  The order in which a map
is walked is left open by the language; here it is the order of the entries,
and what a walk produces is sorted before it is hashed.
-/

/-- A Go map with text keys. -/
abbrev Map (β : Type) := AList (fun _ : Bytes => β)

section Schemas

/-- A table's columns and its partition expression. -/
structure TableSchema where
  tableID : Bytes
  partitionBy : Bytes
  columns : List Column

/-- The zero value of a schema, which a failed map lookup returns. -/
def TableSchema.zero : TableSchema := { tableID := [], partitionBy := [], columns := [] }

/-- Functions of other packages that the executor calls. -/
structure Primitives (α : Type) where
  sum256 : Bytes → Bytes
  elementHash : Bytes → Hash
  encodeValue : Column → α → Option Bytes
  decodeTableSchema : Bytes → Option TableSchema
  validateTableSchemaColumns : TableSchema → Bool

variable {α : Type} (primitives : Primitives α)

def tableSchemaHash (networkID : Bytes) (schema : TableSchema) : Bytes :=
  digestBytes primitives.sum256 (ascii "table-schema" ++ [0] ++ networkID ++ [0] ++
    schema.tableID ++ [0] ++ schema.partitionBy ++ [0] ++
    schema.columns.flatMap fun column => column.name ++ [0] ++ column.type ++ [0])

/-- Every schema hash in the order of table ids, each closed by a zero. -/
def schemaRootOfOrderedHashes (hashes : List Bytes) : Bytes := digestBytes primitives.sum256 (
    ascii "schema-root" ++ [0] ++ hashes.flatMap fun hash => hash ++ [0])

def schemaRoot (networkID : Bytes) (schemas : List TableSchema) : Bytes :=
  schemaRootOfOrderedHashes primitives ((sortBy (fun schema => textKey schema.tableID) schemas).map
      (tableSchemaHash primitives networkID))

def schemaRootFromHashes (schemaHashes : Map Bytes) : Bytes :=
  schemaRootOfOrderedHashes primitives ((sortTexts schemaHashes.keys).filterMap schemaHashes.lookup)

end Schemas

section Jobs

/-- A schema that travels with a job. -/
structure ReplayTableSchema where
  tableID : Bytes
  schemaJSON : Bytes

/-- The tables that a block adds and retires. -/
structure ReplayTableSetTransition where
  adds : List ReplayTableSchema
  retires : List Bytes
  newSchemaRoot : Bytes

/-- A statement of a block, with its commitments. -/
structure Statement where
  statementID : Bytes
  statementSeq : UInt64
  sql : Bytes
  sqlHash : Bytes
  settingsHash : Bytes
  payloadRef : Bytes
  payloadHash : Bytes
  payloadLength : UInt64
  targetTableID : Bytes
  payloadFormat : Bytes
  clientRevision : UInt32
  schemaHash : Bytes

/-- The block to be replayed and what it claims. -/
structure ReplayJob where
  blockSeq : UInt64
  prevSafeSnapshotID : Bytes
  prevStateRoot : Bytes
  schemaSnapshotID : Bytes
  executorProfileID : Bytes
  sourceClaimRoot : Bytes
  statements : List Statement
  tableSetTransition : Option ReplayTableSetTransition
  tableSchemas : List ReplayTableSchema

/-- A statement with the payload that was loaded for it. -/
structure PreparedStatement where
  statement : Statement
  payload : Bytes

/-- Sorted by table id, each id once and not empty, each with its JSON. -/
def replayTableSchemasOrdered : Bytes → List ReplayTableSchema → Bool
  | _, [] => true
  | previous, schema :: rest =>
    schema.tableID != [] &&
      decide (textKey previous < textKey schema.tableID) &&
      schema.schemaJSON != [] &&
      replayTableSchemasOrdered schema.tableID rest

/-- Ascending, not empty, and none of them added by the same transition. -/
def retiresOrdered (added : List Bytes) : Bytes → List Bytes → Bool
  | _, [] => true
  | previous, id :: rest =>
    id != [] && decide (textKey previous < textKey id) &&
      !added.contains id && retiresOrdered added id rest

/-- `ReplayTableSetTransition.Validate`. -/
def ReplayTableSetTransition.isCanonical (transition : ReplayTableSetTransition) : Bool :=
  transition.newSchemaRoot != [] && !(transition.adds.isEmpty && transition.retires.isEmpty) &&
    replayTableSchemasOrdered [] transition.adds &&
    retiresOrdered (transition.adds.map ReplayTableSchema.tableID) [] transition.retires

end Jobs

section Rows

/-- One materialized row. -/
structure Row (α : Type) where
  rowID : Bytes
  values : List α
  partitionID : Bytes
  rawBytes : UInt64

/-- How a stream of rows ended. -/
inductive StreamEnd where
  | endOfStream
  | failed
  deriving DecidableEq

/-- What a row source hands out, up to its end. -/
structure RowSource (α : Type) where
  rows : List (Row α)
  ending : StreamEnd

/-- The rows of one statement; an absent source is a nil one. -/
structure StatementRows (α : Type) where
  statementID : Bytes
  statementSeq : UInt64
  targetTableID : Bytes
  rows : Option (RowSource α)

variable {α : Type} (primitives : Primitives α)

def rowIDColumn : Column := { name := ascii "_hg_row_id", type := ascii "FixedString(32)" }

/-- The tag of text values in a row element. -/
def kindString : UInt8 := 4

/-- The injected row id is a text, every other cell a user value. -/
def encodeCell (column : Column) : Bytes ⊕ α → Option Bytes
  | .inl rowID => some (kindString :: rowID)
  | .inr value => primitives.encodeValue column value

/-- The canonical element of a row, its row id included. -/
def rowElement (schema : TableSchema) (row : Row α) : Option Bytes :=
  encodeRow (encodeCell primitives) schema.tableID
    (rowIDColumn :: schema.columns) (.inl row.rowID :: row.values.map .inr)

def rowElementHash (schema : TableSchema) (row : Row α) : Option Hash :=
  (rowElement primitives schema row).map primitives.elementHash

end Rows

section Parts

/-- Why the rows of a statement were refused. -/
inductive BuildRefusal where
  | streamFailed
  | rowIDLength
  | partitionIDRequired
  | rowElement
  | counterOverflow

/-- The running totals of one partition. -/
structure PartAgg where
  acc : Hash
  rowCount : UInt64
  bytes : UInt64

/-- The totals of a partition that has no row yet. -/
def PartAgg.new : PartAgg := { acc := 0, rowCount := 0, bytes := 0 }

/-- The rows of a statement by partition, in order of arrival. -/
structure PartGroups where
  byPartition : Map PartAgg
  partitionOrder : List Bytes

def PartGroups.empty : PartGroups := { byPartition := ∅, partitionOrder := [] }

def maxUint64 : UInt64 := UInt64.ofNat (2 ^ 64 - 1)

/-- The totals of a partition and the order in which partitions came up. -/
def PartGroups.enter (groups : PartGroups) (partitionID : Bytes) : PartAgg × List Bytes :=
  match groups.byPartition.lookup partitionID with
  | some totals => (totals, groups.partitionOrder)
  | none => (PartAgg.new, groups.partitionOrder ++ [partitionID])

variable {α : Type} (primitives : Primitives α)
  (schema : TableSchema)

/-- One turn of the loop of `buildParts`. -/
def addRow (groups : PartGroups) (row : Row α) : Except BuildRefusal PartGroups :=
  if row.rowID.length ≠ 32 then
    .error .rowIDLength
  else if row.partitionID = [] then
    .error .partitionIDRequired
  else
    match rowElementHash primitives schema row with
    | none => .error .rowElement
    | some hash =>
      let (totals, order) := groups.enter row.partitionID
      if totals.rowCount = maxUint64 ∨ row.rawBytes > maxUint64 - totals.bytes then
        .error .counterOverflow
      else
        .ok {
          byPartition := groups.byPartition.insert row.partitionID {
              acc := totals.acc + hash
              rowCount := totals.rowCount + 1
              bytes := totals.bytes + row.rawBytes }
          partitionOrder := order }

/-- The name of the part that a statement of a block adds to a partition. -/
def partNameOf (partitionID : Bytes) (blockSeq statementSeq : UInt64) : Bytes :=
  partitionID ++ ascii "-b" ++ formatUint blockSeq.toNat ++
    ascii "-s" ++ formatUint statementSeq.toNat

def mvpPartPhysHash (partName rowLtHash : Bytes) : Bytes :=
  digestBytes primitives.sum256 (ascii "mvp-part-phys" ++ [0] ++ partName ++ [0] ++ rowLtHash)

def newPart (blockSeq statementSeq : UInt64) (partitionID : Bytes) (totals : PartAgg) :
    PartManifestEntry :=
  let partName := partNameOf partitionID blockSeq statementSeq
  let rowLtHash := lthashHex totals.acc
  { tableID := schema.tableID
    partitionID := partitionID
    partName := partName
    partPhysHash := mvpPartPhysHash primitives partName rowLtHash
    partRowLtHash := rowLtHash
    rowCount := totals.rowCount
    bytes := totals.bytes
    storageRefs := [] }

/-- One part for every partition that a statement writes to. -/
def buildParts (blockSeq statementSeq : UInt64) (source : RowSource α) :
    Except BuildRefusal (List PartManifestEntry) := do
  let groups ← source.rows.foldlM (addRow primitives schema) PartGroups.empty
  if source.ending = .failed then
    .error .streamFailed
  else
    .ok ((sortTexts groups.partitionOrder).filterMap fun partitionID =>
      (groups.byPartition.lookup partitionID).map
        (newPart primitives schema blockSeq statementSeq partitionID))

end Parts

section Ledger

/-- Why a part was refused. -/
inductive LedgerRefusal where
  | partHash
  | partsSumMismatch
  | undeclaredPartition

variable (sums : Map Hash)

/-- Add a part to the sum of its partition. -/
def addPartHash (part : PartManifestEntry) : Except LedgerRefusal (Map Hash) :=
  match lthashFromHex part.partRowLtHash with
  | none => .error .partHash
  | some hash => .ok (sums.insert part.partitionID ((sums.lookup part.partitionID).getD 0 + hash))

variable (table : TableManifest)

/-- Every declared root is the sum of the parts of its partition. -/
def TableManifest.rootsAreSums : Bool :=
  table.partitionRoots.all fun commitment =>
    decide (lthashHex ((sums.lookup commitment.partitionID).getD 0) = commitment.root)

/-- Every partition that has parts declares a root. -/
def TableManifest.declaresAll : Bool :=
  sums.keys.all fun partitionID =>
    table.partitionRoots.any fun commitment => commitment.partitionID == partitionID

/-- The ledger check of one table. -/
def verifyTableLedger : Except LedgerRefusal Unit := do
  let sums ← table.activeParts.foldlM addPartHash ∅
  if table.rootsAreSums sums = false then
    .error .partsSumMismatch
  else if table.declaresAll sums = false then
    .error .undeclaredPartition
  else
    .ok ()

def verifyLedger (manifest : SafeSnapshotManifest) : Except LedgerRefusal Unit :=
  checkEach (fun _ table => verifyTableLedger table) manifest.tables

end Ledger

variable {schemas : Map TableSchema}

section Executor

/-- The key of every schema is its own table id. -/
def SchemasKeyed (schemas : Map TableSchema) : Prop :=
  ∀ id schema, schemas.lookup id = some schema → schema.tableID = id

/-- Schemas under their table ids, a later one over an earlier one. -/
def insertSchemas (tables : List TableSchema) : Map TableSchema → Map TableSchema :=
  insertAll TableSchema.tableID (fun schema => schema) tables

theorem SchemasKeyed.insert
    (keyed : SchemasKeyed schemas)
    {id : Bytes}
    {schema : TableSchema}
    (named : schema.tableID = id) :
    SchemasKeyed (schemas.insert id schema) := by
  intro other found lookedUp
  by_cases same : other = id
  · subst same
    rw [AList.lookup_insert] at lookedUp
    cases lookedUp
    exact named
  · rw [AList.lookup_insert_ne same] at lookedUp
    exact keyed other found lookedUp

theorem SchemasKeyed.insertSchemas (tables : List TableSchema) (keyed : SchemasKeyed schemas) :
    SchemasKeyed (insertSchemas tables schemas) := by
  induction tables generalizing schemas with
  | nil => exact keyed
  | cons table rest inductionHypothesis => exact inductionHypothesis (keyed.insert rfl)

theorem schemasKeyed_empty : SchemasKeyed ∅ := by
  intro id schema found
  cases found

/-- A configured executor. -/
structure Executor (α : Type) where
  networkID : Bytes
  tables : Map TableSchema
  keyed : SchemasKeyed tables
  materializer : Option (TableSchema → PreparedStatement → Option (List (Row α)))
  dynamic : Bool

/-- An executor of exactly the given tables. -/
def newWithMaterializer (networkID : Bytes)
    (materializer : Option (TableSchema → PreparedStatement → Option (List (Row α))))
    (tables : List TableSchema) :
    Executor α :=
  { networkID := networkID
    tables := insertSchemas tables ∅
    keyed := schemasKeyed_empty.insertSchemas tables
    materializer := materializer
    dynamic := false }

/-- An executor whose table set follows the chain. -/
def newDynamic (networkID : Bytes)
    (materializer : Option (TableSchema → PreparedStatement → Option (List (Row α))))
    (static : List TableSchema) :
    Executor α :=
  { newWithMaterializer networkID materializer static with
    dynamic := true }

variable {α : Type} (primitives : Primitives α) (executor : Executor α)

def Executor.sortedTableIDs : List Bytes := sortTexts executor.tables.keys

/-- The configured schemas in the order of their table ids. -/
def Executor.sortedTables : List TableSchema :=
  executor.sortedTableIDs.filterMap executor.tables.lookup

/-- The empty manifest of the configured tables. -/
def Executor.genesisSnapshot (safeBlockSeq : UInt64) (schemaSnapshotID executorProfileID : Bytes) :
    SafeSnapshotManifest :=
  SafeSnapshotManifest.seal primitives.sum256 {
    snapshotID := []
    parentSnapshotID := []
    safeBlockSeq := safeBlockSeq
    stateRoot := []
    schemaSnapshotID := schemaSnapshotID
    schemaRoot := schemaRoot primitives executor.networkID executor.sortedTables
    executorProfileID := executorProfileID
    dataRoot := []
    manifestRoot := []
    tables := executor.sortedTables.map fun schema => {
      tableID := schema.tableID
      schemaHash := tableSchemaHash primitives executor.networkID schema
      partitionRoots := []
      activeParts := [] }
    trackFrontiers := [] }

/-- Why a block was refused. -/
inductive ApplyRefusal where
  | noMaterializer
  | ledger (reason : LedgerRefusal)
  | statementIDRequired
  | duplicateStatementID
  | statementSeqOrder
  | transitionWithStatements
  | transitionShape
  | staticTableSet
  | schemaJSON
  | manifest (reason : ManifestRefusal)
  | tableSetMismatch
  | tableIDInvalid
  | tableNotConfigured
  | schemaHashMismatch
  | schemaHashMissing
  | partitionInvalid
  | partInvalid
  | schemaRootMismatch
  | unknownTarget
  | rowSourceRequired
  | retiredTableAbsent
  | addedTablePresent
  | newSchemaRootMismatch
  | build (reason : BuildRefusal)
  | tableNotInSnapshot
  | partHash

/-- `DecodeTableSchemaJSON`: the schema names its table and is admitted. -/
def decodeTableSchemaJSON (tableID schemaJSON : Bytes) : Except ApplyRefusal TableSchema :=
  match primitives.decodeTableSchema schemaJSON with
  | none => .error .schemaJSON
  | some schema =>
    if schema.tableID ≠ tableID then
      .error .schemaJSON
    else if primitives.validateTableSchemaColumns schema = false then
      .error .schemaJSON
    else
      .ok schema

/-- The schemas a job carries itself. -/
def ReplayJob.carriedSchemas (job : ReplayJob) : List ReplayTableSchema :=
  job.tableSchemas ++ (job.tableSetTransition.elim [] ReplayTableSetTransition.adds)

def carriedTableIDs (job : ReplayJob) : List Bytes :=
  job.carriedSchemas.map ReplayTableSchema.tableID

def addCarriedSchema (schemas : Map TableSchema) (carried : ReplayTableSchema) :
    Except ApplyRefusal (Map TableSchema) := do
  let schema ← decodeTableSchemaJSON primitives carried.tableID carried.schemaJSON
  return schemas.insert carried.tableID schema

/-- Static schemas first, the carried ones over them. -/
def resolveJobSchemas (static : List TableSchema) (job : ReplayJob) :
    Except ApplyRefusal (Map TableSchema) :=
  job.carriedSchemas.foldlM (addCarriedSchema primitives) (insertSchemas static ∅)

def Executor.schemasForJob (job : ReplayJob) : Except ApplyRefusal (Map TableSchema) :=
  if executor.dynamic = false then
    if job.tableSetTransition ≠ none ∨ job.tableSchemas ≠ [] then
      .error .staticTableSet
    else
      .ok executor.tables
  else
    resolveJobSchemas primitives executor.sortedTables job

/-- The schema check of one table of the previous manifest. -/
def Executor.checkTableSchema
    (schemas : Map TableSchema) (carried targeted : List Bytes) (table : TableManifest) :
    Except ApplyRefusal Unit :=
  match schemas.lookup table.tableID with
  | none =>
    if executor.dynamic = false then
      .error .tableNotConfigured
    else if table.schemaHash = [] then
      .error .schemaHashMissing
    else
      .ok ()
  | some schema =>
    if executor.dynamic = false ∨ table.tableID ∈ carried then
      if schema.tableID ≠ table.tableID then
        .error .tableNotConfigured
      else if table.schemaHash ≠ tableSchemaHash primitives executor.networkID schema then
        .error .schemaHashMismatch
      else
        .ok ()
    else if (schema.tableID ≠ table.tableID ∨ table.schemaHash ≠
        tableSchemaHash primitives executor.networkID schema) ∧ table.tableID ∈ targeted then
      -- a stale static schema is an error only for a table in use
      .error .schemaHashMismatch
    else
      .ok ()

variable (table : TableManifest)

def TableManifest.partitionsDistinct : Bool := allFresh
    (fun commitment : PartitionCommitment =>
      commitment.tableID == table.tableID && commitment.partitionID != [])
    PartitionCommitment.partitionID [] table.partitionRoots

def TableManifest.partsDistinct : Bool := allFresh
    (fun part : PartManifestEntry =>
      part.tableID == table.tableID && part.partName != [] && part.partitionID != [])
    PartManifestEntry.partName [] table.activeParts

def Executor.checkTables (schemas : Map TableSchema) (carried targeted : List Bytes) :
    List Bytes → List TableManifest → Except ApplyRefusal Unit
  | _, [] => .ok ()
  | seen, table :: rest =>
    if table.tableID = [] ∨ table.tableID ∈ seen then
      .error .tableIDInvalid
    else do
      executor.checkTableSchema primitives schemas carried targeted table
      if table.partitionsDistinct = false then
        .error .partitionInvalid
      else if table.partsDistinct = false then
        .error .partInvalid
      else
        Executor.checkTables schemas carried targeted (table.tableID :: seen) rest

/-- The schema hash of every table of a manifest. -/
def schemaHashesOf (tables : List TableManifest) : Map Bytes :=
  insertAll tableID schemaHash tables ∅

def checkBatch (schemas : Map TableSchema) (batch : StatementRows α) : Except ApplyRefusal Unit :=
  if schemas.lookup batch.targetTableID = none then
    .error .unknownTarget
  else if batch.rows.isNone then
    .error .rowSourceRequired
  else
    .ok ()

variable (prev : SafeSnapshotManifest)
  (batches : List (StatementRows α))

def Executor.validateAppendInputs (schemas : Map TableSchema) (carried : List Bytes) :
    Except ApplyRefusal Unit :=
  match prev.validate primitives.sum256 with
  | .error reason => .error (.manifest reason)
  | .ok () =>
    if executor.dynamic = false ∧ prev.tables.length ≠ executor.tables.keys.length then
      .error .tableSetMismatch
    else do
      executor.checkTables primitives schemas carried
        (batches.map StatementRows.targetTableID) [] prev.tables
      if prev.schemaRoot ≠ schemaRootFromHashes primitives (schemaHashesOf prev.tables) then
        .error .schemaRootMismatch
      else
        checkEach (fun _ batch => checkBatch schemas batch) batches

/-- No statement id twice, sequence numbers strictly ascending from one. -/
def validateBlockStatements :
    List Bytes → UInt64 → List (StatementRows α) → Except ApplyRefusal Unit
  | _, _, [] => .ok ()
  | seen, lastSeq, batch :: rest =>
    if batch.statementID = [] then
      .error .statementIDRequired
    else if batch.statementID ∈ seen then
      .error .duplicateStatementID
    else if batch.statementSeq ≤ lastSeq then
      .error .statementSeqOrder
    else
      validateBlockStatements (batch.statementID :: seen) batch.statementSeq rest

/-- The parts of every partition of every table. -/
abbrev LedgerParts := Map (Map (List PartManifestEntry))

/-- Append a part to its partition. -/
def appendPart (byPartition : Map (List PartManifestEntry)) (part : PartManifestEntry) :
    Map (List PartManifestEntry) :=
  byPartition.insert part.partitionID ((byPartition.lookup part.partitionID).getD [] ++ [part])

/-- Every declared partition, with the active parts of each. -/
def partsByPartition : Map (List PartManifestEntry) :=
  table.activeParts.foldl appendPart
    (insertAll PartitionCommitment.partitionID (fun _ => []) table.partitionRoots ∅)

def ledgerPartsOf (tables : List TableManifest) : LedgerParts :=
  insertAll tableID partsByPartition tables ∅

/-- The tables while a block is applied, with their schema hashes. -/
structure LedgerState where
  parts : LedgerParts
  schemaHashes : Map Bytes

def retireTable (ledger : LedgerState) (id : Bytes) : Except ApplyRefusal LedgerState :=
  if ledger.parts.lookup id = none then
    .error .retiredTableAbsent
  else
    .ok {
      parts := ledger.parts.erase id
      schemaHashes := ledger.schemaHashes.erase id }

def Executor.addTable
    (schemas : Map TableSchema) (ledger : LedgerState) (added : ReplayTableSchema) :
    Except ApplyRefusal LedgerState :=
  if ledger.parts.lookup added.tableID ≠ none then
    .error .addedTablePresent
  else
    .ok {
      parts := ledger.parts.insert added.tableID ∅
      schemaHashes := ledger.schemaHashes.insert added.tableID
          (tableSchemaHash primitives executor.networkID
            ((schemas.lookup added.tableID).getD TableSchema.zero)) }

/-- Retire tables, add empty ones, and derive the new schema root. -/
def Executor.applyTableSetTransition
    (transition : ReplayTableSetTransition) (schemas : Map TableSchema) (ledger : LedgerState) :
    Except ApplyRefusal (LedgerState × Bytes) := do
  let retired ← transition.retires.foldlM retireTable ledger
  let added ← transition.adds.foldlM (executor.addTable primitives schemas) retired
  let root := schemaRootFromHashes primitives added.schemaHashes
  if root ≠ transition.newSchemaRoot then .error .newSchemaRootMismatch else .ok (added, root)

/-- The ledger while the statements of a block are appended. -/
structure AppendState where
  parts : LedgerParts
  touched : List (Bytes × Bytes)
  affected : List PartManifestEntry

def appendNewPart (state : AppendState) (part : PartManifestEntry) :
    Except ApplyRefusal AppendState :=
  match state.parts.lookup part.tableID with
  | none => .error .tableNotInSnapshot
  | some byPartition =>
    .ok {
      parts := state.parts.insert part.tableID (appendPart byPartition part)
      touched :=
        if (part.tableID, part.partitionID) ∈ state.touched then
          state.touched
        else
          state.touched ++ [(part.tableID, part.partitionID)]
      affected := state.affected ++ [part] }

def liftBuild : Except BuildRefusal β → Except ApplyRefusal β
  | .error reason => .error (.build reason)
  | .ok value => .ok value

/-- Build the parts of one statement and append each of them. -/
def appendStatement (schemas : Map TableSchema) (blockSeq : UInt64) (state : AppendState)
    (batch : StatementRows α) :
    Except ApplyRefusal AppendState :=
  match batch.rows with
  | none => .error .rowSourceRequired
  | some source => do
      let newParts ← liftBuild (buildParts primitives
          ((schemas.lookup batch.targetTableID).getD TableSchema.zero)
          blockSeq batch.statementSeq source)
      newParts.foldlM appendNewPart state

/-- Add a part to the accumulator of its partition. -/
def addEntryHash (acc : Hash) (part : PartManifestEntry) : Except ApplyRefusal Hash :=
  match lthashFromHex part.partRowLtHash with
  | none => .error .partHash
  | some hash => .ok (acc + hash)

def rebuildPartition (tableID : Bytes) (partition : Σ _ : Bytes, List PartManifestEntry) :
    Except ApplyRefusal PartitionCommitment := do
  let acc ← partition.2.foldlM addEntryHash 0
  return {
    tableID := tableID
    partitionID := partition.1
    root := lthashHex acc }

/-- A table manifest from the parts of its partitions. -/
def rebuildTable (schemaHashes : Map Bytes) (table : Σ _ : Bytes, Map (List PartManifestEntry)) :
    Except ApplyRefusal TableManifest := do
  let partitionRoots ← table.2.entries.mapM (rebuildPartition table.1)
  return {
    tableID := table.1
    schemaHash := (schemaHashes.lookup table.1).getD []
    partitionRoots := partitionRoots
    activeParts := table.2.entries.flatMap fun partition => partition.2 }

def rebuildTables (schemaHashes : Map Bytes) (parts : LedgerParts) :
    Except ApplyRefusal (List TableManifest) :=
  parts.entries.mapM (rebuildTable schemaHashes)

/-- What the execution of a block computed. -/
structure ExecutionResult where
  blockSeq : UInt64
  prevSafeSnapshotID : Bytes
  prevStateRoot : Bytes
  schemaSnapshotID : Bytes
  executorProfileID : Bytes
  computedStateRoot : Bytes
  partitionCommitmentsAfter : List PartitionCommitment
  affectedParts : List PartManifestEntry
  replayLogHash : Bytes

def sortTouched (touched : List (Bytes × Bytes)) : List (Bytes × Bytes) :=
  sortBy (fun entry => toLex (textKey entry.1, textKey entry.2)) touched

/-- The roots of a manifest under the key of table and partition. -/
def partitionRootIndex (manifest : SafeSnapshotManifest) : Map Bytes := manifest.tables.foldl
    (fun index table =>
      table.partitionRoots.foldl (fun inner commitment =>
          inner.insert (table.tableID ++ [0] ++ commitment.partitionID) commitment.root)
        index)
    ∅

def affectedPartitionCommitments
    (manifest : SafeSnapshotManifest) (touched : List (Bytes × Bytes)) :
    List PartitionCommitment :=
  touched.map fun entry => {
    tableID := entry.1
    partitionID := entry.2
    root := ((partitionRootIndex manifest).lookup (entry.1 ++ [0] ++ entry.2)).getD [] }

def sortedParts (parts : List PartManifestEntry) : List PartManifestEntry :=
  sortBy PartManifestEntry.key parts

def replayLogHash (affected : List PartManifestEntry) : Bytes :=
  digestBytes primitives.sum256 (ascii "replay-log" ++ [0] ++
    (batches.flatMap fun batch => batch.statementID ++ ascii "|" ++ batch.targetTableID ++ [10]) ++
    (sortedParts affected).flatMap fun part =>
      part.partName ++ ascii "|" ++ part.partRowLtHash ++ ascii "|" ++
        formatUint part.rowCount.toNat ++ [10])

/-- The manifest of the tables that a block leaves behind. -/
def nextManifest (blockSeq : UInt64) (nextSchemaRoot : Bytes) (tables : List TableManifest) :
    SafeSnapshotManifest :=
  SafeSnapshotManifest.seal primitives.sum256 {
    snapshotID := []
    parentSnapshotID := prev.snapshotID
    safeBlockSeq := blockSeq
    stateRoot := []
    schemaSnapshotID := prev.schemaSnapshotID
    schemaRoot := nextSchemaRoot
    executorProfileID := prev.executorProfileID
    dataRoot := []
    manifestRoot := []
    tables := tables
    trackFrontiers := [] }

def executionResult
    (job : ReplayJob) (batches : List (StatementRows α)) (next : SafeSnapshotManifest)
    (state : AppendState) :
    ExecutionResult :=
  { blockSeq := job.blockSeq
    prevSafeSnapshotID := job.prevSafeSnapshotID
    prevStateRoot := job.prevStateRoot
    schemaSnapshotID := job.schemaSnapshotID
    executorProfileID := job.executorProfileID
    computedStateRoot := next.stateRoot
    partitionCommitmentsAfter := affectedPartitionCommitments next (sortTouched state.touched)
    affectedParts := sortedParts state.affected
    replayLogHash := replayLogHash primitives batches state.affected }

/-- The shape of a transition job: no statements, canonical lists. -/
def checkTransition (job : ReplayJob) (batches : List (StatementRows α)) :
    Except ApplyRefusal Unit :=
  match job.tableSetTransition with
  | none => .ok ()
  | some transition =>
    if batches ≠ [] then
      .error .transitionWithStatements
    else if transition.isCanonical = false then
      .error .transitionShape
    else
      .ok ()

def liftLedger : Except LedgerRefusal β → Except ApplyRefusal β
  | .error reason => .error (.ledger reason)
  | .ok value => .ok value

/-- The tables before statements are appended, and the next schema root. -/
def Executor.openLedger (job : ReplayJob) (schemas : Map TableSchema) :
    Except ApplyRefusal (LedgerState × Bytes) :=
  let ledger : LedgerState :=
    { parts := ledgerPartsOf prev.tables
      schemaHashes := schemaHashesOf prev.tables }
  match job.tableSetTransition with
  | none => .ok (ledger, prev.schemaRoot)
  | some transition => executor.applyTableSetTransition primitives transition schemas ledger

def Executor.applyRows (job : ReplayJob) (batches : List (StatementRows α)) :
    Except ApplyRefusal (SafeSnapshotManifest × ExecutionResult) := do
  liftLedger (verifyLedger prev)
  validateBlockStatements [] 0 batches
  checkTransition job batches
  let schemas ← executor.schemasForJob primitives job
  executor.validateAppendInputs primitives prev batches schemas (carriedTableIDs job)
  let (ledger, nextSchemaRoot) ← executor.openLedger primitives prev job schemas
  let state ←
    batches.foldlM (appendStatement primitives schemas job.blockSeq)
      { parts := ledger.parts, touched := [], affected := [] }
  let tables ← rebuildTables ledger.schemaHashes state.parts
  let next := nextManifest primitives prev job.blockSeq nextSchemaRoot tables
  return (next, executionResult primitives job batches next state)

variable (materialize : TableSchema → PreparedStatement → Option (List (Row α)))

/-- The rows of a prepared statement, materialized on the first read. -/
def materializedRows (schema : TableSchema) (prepared : PreparedStatement) : RowSource α :=
  if prepared.statement.payloadRef = [] then
    { rows := [], ending := .failed }
  else
    match materialize schema prepared with
    | none => { rows := [], ending := .failed }
    | some rows => { rows := rows, ending := .endOfStream }

/-- The batch that `ApplyContext` makes of a prepared statement. -/
def preparedBatch (schemas : Map TableSchema) (entry : PreparedStatement) : StatementRows α :=
  { statementID := entry.statement.statementID
    statementSeq := entry.statement.statementSeq
    targetTableID := entry.statement.targetTableID
    rows := some (materializedRows materialize
        ((schemas.lookup entry.statement.targetTableID).getD TableSchema.zero)
        entry) }

def Executor.applyContext (job : ReplayJob) (prepared : List PreparedStatement) :
    Except ApplyRefusal (SafeSnapshotManifest × ExecutionResult) :=
  match executor.materializer with
  | none => .error .noMaterializer
  | some materialize => do
      let schemas ← executor.schemasForJob primitives job
      executor.applyRows primitives prev job (prepared.map (preparedBatch materialize schemas))

end Executor

end HouseGate.Replay
