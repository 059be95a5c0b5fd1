import HouseGate.CanonicalRows

namespace HouseGate.SnapshotOutput

open LittleEndian DecimalText AsciiText JsonDocument KeyedSort LtHash Replay RunMerge Utf8Text

/-!
# The external sort of a snapshot query's output

Rows are collected until their memory reservation is spent, sorted and spilled
as a run.  Runs are kept in levels that are merged like the carries of a binary
counter; at the end the levels are merged into one run, from which the output
is written with its row ids, partitions and root.  The memory, spill and output
limits are checked before anything is allocated.

A run file is the list of its records: it is read back as it was written, and
every record is decoded, normalized and encoded again on reading.  Whether a
file operation fails or the context has ended is decided from outside, and the
sort of one run is any sort by the key.
-/

section Records

/-- A row on its way through the external sort. -/
structure SortRecord where
  key : Bytes
  typed : Bytes
  id : Bytes
  partition : Bytes

def recordFrameBytes : Nat := 64

def fileHeaderBytes : Nat := 40

def SortRecord.size (record : SortRecord) : Nat :=
  recordFrameBytes + record.key.length + record.typed.length +
    record.id.length + record.partition.length

/-- The order of records: their keys, byte by byte. -/
def SortRecord.order (record : SortRecord) : List Nat := textKey record.key

/-- A sorted file, with what its writer counted. -/
structure SortRun where
  records : List SortRecord
  size : Nat
  maxRecord : Nat

/-- `sort.Slice` by the key, which may leave equal keys in any order. -/
structure SliceSort where
  sort : List SortRecord → List SortRecord
  perm : ∀ records, (sort records).Perm records
  ordered : ∀ records, Ordered SortRecord.order (sort records)

/-- The limits that a snapshot query was admitted with. -/
structure QueryLimits where
  maxSQLBytes : UInt64
  maxDescriptorBytes : UInt64
  maxOutputRows : UInt64
  maxOutputBytes : UInt64
  maxRestoreBytes : UInt64
  maxSortMemoryBytes : UInt64
  maxSpillBytes : UInt64
  maxExecutionMS : UInt64

def validateQueryLimits (limits : QueryLimits) : Bool :=
  limits.maxSQLBytes != 0 && limits.maxDescriptorBytes != 0 &&
    limits.maxOutputRows != 0 && limits.maxOutputBytes != 0 &&
    limits.maxRestoreBytes != 0 && limits.maxSortMemoryBytes != 0 &&
    limits.maxSpillBytes != 0 && limits.maxExecutionMS != 0

/-- What stays the same during one call. -/
structure Call where
  networkID : Bytes
  statementID : Bytes
  schema : TableSchema
  limits : QueryLimits
  tempDir : Bytes

/-- Functions of other packages, and what the surroundings decide. -/
structure Host where
  primitives : Primitives Value
  blake3 : Bytes → Bytes
  loadLocation : Bytes → Bool
  renderers : Renderers
  slices : SliceSort
  fails : Nat → Bool

/-- The accounting of a call, the records in memory and the spilled runs. -/
structure SortState where
  base : Nat
  retained : Nat
  maxWorkspace : Nat
  runMemory : Nat
  spill : Nat
  outputBytes : Nat
  projectedOutput : Nat
  rows : Nat
  records : List SortRecord
  levels : List (Option SortRun)
  attempts : Nat

end Records

section Accounting

variable (host : Host) (call : Call) (state : SortState)

/-- A file operation or a look at the context. -/
def attempt : Option SortState :=
  if host.fails state.attempts then none else some { state with attempts := state.attempts + 1 }

/-- The reservation fits the memory limit. -/
def memory (retained workspace run : Nat) : Option Unit := do
  let reserved ← checkedMul workspace 3
  let reserved ← checkedAdd reserved state.base
  let reserved ← checkedAdd reserved retained
  let reserved ← checkedAdd reserved run
  fitInt reserved
  if call.limits.maxSortMemoryBytes.toNat < reserved then none else some ()

def rowWorkspace (key typed partition columns : Nat) : Option Nat := do
  let content ← checkedAdd key typed
  let content ← checkedAdd content partition
  let content ← checkedMul content 32
  let perColumn ← checkedMul columns 256
  let content ← checkedAdd content perColumn
  checkedAdd content 4096

def chargeSpill (bytes : Nat) : Option SortState := do
  let spill ← checkedAdd state.spill bytes
  if call.limits.maxSpillBytes.toNat < spill then none else some { state with spill := spill }

end Accounting

section Runs

variable (host : Host) (call : Call)
  (state : SortState)

def newWriter : Option (SortRun × SortState) := do
  let state ← attempt host state
  let state ← chargeSpill call state fileHeaderBytes
  let state ← attempt host state
  return ({ records := [], size := fileHeaderBytes, maxRecord := 0 }, state)

def writeRecord (written : SortRun × SortState) (record : SortRecord) :
    Option (SortRun × SortState) := do
  let (run, state) := written
  let state ← chargeSpill call state record.size
  let state ← attempt host state
  return ({
    records := run.records ++ [record]
    size := run.size + record.size
    maxRecord := max run.maxRecord record.size }, state)

def writeRun (records : List SortRecord) : Option (SortRun × SortState) := do
  let started ← newWriter host call state
  let (run, state) ← records.foldlM (writeRecord host call) started
  let state ← attempt host state
  return (run, state)

/-- What the reader of a run checks of a record. -/
def checkRead (run : SortRun) (previous : Option Bytes) (record : SortRecord) : Option Unit := do
  if run.maxRecord < record.size ∨ run.size < record.size then
    none
  else do
    fitInt record.size
    let values ← decodeTyped host.loadLocation call.schema record.typed
    let normalized ← normalizeRow host.loadLocation call.schema values
    let key ← rowKey call.schema normalized
    if key ≠ record.key ∨ encodeTyped normalized ≠ record.typed then
      none
    else if previous.any (fun earlier => decide (textKey record.key < textKey earlier)) then
      none
    else
      some ()

def readRecords (run : SortRun) : Option Bytes → List SortRecord → SortState → Option SortState
  | _, [], state => some state
  | previous, record :: rest, state => do
      let state ← attempt host state
      checkRead host call run previous record
      readRecords run (some record.key) rest state

/-- The records of a run, up to its end. -/
def readRun (run : SortRun) : Option (List SortRecord × SortState) := do
  let state ← attempt host state
  let state ← readRecords host call run none run.records state
  let state ← attempt host state
  return (run.records, state)

/--
Two runs into one.  The source reads and writes in turns; each of the three
files can only end the call.
-/
def merge (first second : SortRun) : Option (SortRun × SortState) := do
  memory call state state.retained state.maxWorkspace 0
  let (firstRecords, state) ← readRun host call state first
  let (secondRecords, state) ← readRun host call state second
  let (merged, state) ←
    writeRun host call state (mergeRuns SortRecord.order firstRecords secondRecords)
  let state ← attempt host state
  return (merged, state)

/-- A run moves up through the levels that are taken. -/
def carry (state : SortState) :
    List (Option SortRun) → SortRun → Option (List (Option SortRun) × SortState)
  | [], _ => none
  | none :: higher, run => some (some run :: higher, state)
  | some level :: higher, run => do
      let (merged, state) ← merge host call state level run
      let (carried, state) ← carry state higher merged
      return (none :: carried, state)

def flush : Option SortState :=
  if state.records = [] then
    attempt host state
  else do
    let state ← attempt host state
    let sorted := host.slices.sort state.records
    let state ← attempt host state
    let (run, state) ← writeRun host call state sorted
    let (levels, state) ←
      carry host call { state with records := [], runMemory := 0 } state.levels run
    return { state with levels := levels }

/-- One level more in the run that gathers them all. -/
def gather (gathered : Option SortRun × SortState) :
    Option SortRun → Option (Option SortRun × SortState)
  | none => some gathered
  | some level =>
    match gathered with
    | (none, state) => some (some level, state)
    | (some run, state) => do
        let (merged, state) ← merge host call state run level
        return (some merged, state)

def finishRuns : Option (Option SortRun × SortState) := do
  let (run, state) ← state.levels.foldlM (gather host call) (none, state)
  let state ← attempt host state
  return (run, { state with levels := state.levels.map fun _ => none })

end Runs

section Rows

variable (host : Host) (call : Call)

/-- The counters that a row is admitted with. -/
structure RowCharge where
  rows : Nat
  layout : RowLayout
  workspace : Nat
  maxWorkspace : Nat
  retained : Nat

variable (state : SortState)

def chargeRow (values : List Value) : Option RowCharge := do
  let rows ← checkedAdd state.rows 1
  if call.limits.maxOutputRows.toNat < rows then
    none
  else do
    fitInt rows
    let layout ← rowLayout host.loadLocation call.schema values
    let workspace ← rowWorkspace layout.keySize layout.typedSize layout.partitionBound values.length
    let reservation ← checkedMul layout.partitionBound 4
    let reservation ← checkedAdd reservation 1024
    let retained ← checkedAdd state.retained reservation
    return {
      rows := rows
      layout := layout
      workspace := workspace
      maxWorkspace := max state.maxWorkspace workspace
      retained := retained }

/-- Spill the run in memory, if there is one. -/
def makeRoom : Option SortState :=
  if state.records = [] then some state else flush host call state

/-- The memory of the run with a row more, spilled before if need be. -/
def reserve (charge : RowCharge) : Option (Nat × SortState) := do
  let runMemory ← checkedAdd state.runMemory charge.workspace
  if (memory call state charge.retained charge.maxWorkspace runMemory).isSome then
    some (runMemory, state)
  else do
    let state ← makeRoom host call state
    memory call state charge.retained charge.maxWorkspace charge.workspace
    return (charge.workspace, state)

/-- The row as a record, and the output bytes with it. -/
def recordRow (projectedOutput : Nat) (layout : RowLayout) (values : List Value) :
    Option (Nat × SortRecord) := do
  let minimum ← checkedAdd layout.keySize layout.typedSize
  let minimum ← checkedAdd minimum (recordFrameBytes + 32 + 2)
  let minimum ← checkedAdd projectedOutput minimum
  if call.limits.maxOutputBytes.toNat < minimum then
    none
  else do
    let normalized ← normalizeRow host.loadLocation call.schema values
    let partition ← partitionIDForRow host.loadLocation host.renderers call.schema normalized
    let projected ← checkedAdd minimum ((partition.length + uint64Size - 2) % uint64Size)
    if call.limits.maxOutputBytes.toNat < projected then
      none
    else do
      let key ← rowKey call.schema normalized
      if key.length ≠ layout.keySize then
        none
      else
        return (projected, {
          key := key
          typed := encodeTyped normalized
          id := []
          partition := [] })

/-- The state with a record more in memory. -/
def SortState.withRecord (charge : RowCharge) (runMemory projected : Nat) (record : SortRecord) :
    SortState :=
  { state with
    projectedOutput := projected
    rows := charge.rows
    retained := charge.retained
    maxWorkspace := charge.maxWorkspace
    runMemory := runMemory
    records := state.records ++ [record] }

def add (values : List Value) : Option SortState := do
  let charge ← chargeRow host call state values
  let (runMemory, state) ← reserve host call state charge
  let (projected, record) ← recordRow host call state.projectedOutput charge.layout values
  let added := state.withRecord charge runMemory projected record
  if call.limits.maxSortMemoryBytes.toNat / 4 ≤ runMemory then
    flush host call added
  else
    attempt host added

end Rows

section Output

variable (host : Host) (call : Call)

def rowIDDomain : Bytes := ascii "housegate-row-id-v1"

def framed (text : Bytes) : Bytes := littleEndian32 text.length ++ text

def rowID (networkID tableID statementID : Bytes) (ordinal : Nat) : Bytes :=
  host.blake3 (rowIDDomain ++ framed networkID ++ framed tableID ++
    framed statementID ++ littleEndian 8 ordinal)

/-- What a finished call holds. -/
structure CanonicalOutput where
  run : SortRun
  root : Bytes
  hashes : List Bytes
  partitions : List Bytes

variable (output : CanonicalOutput)

def CanonicalOutput.rowCount : Nat := output.run.records.length

/-- A record of the sorted run with its row id and its partition. -/
def outputRecord (ordinal : Nat) (record : SortRecord) : Option SortRecord := do
  if record.id ≠ [] ∨ record.partition ≠ [] then
    none
  else do
    let values ← decodeTyped host.loadLocation call.schema record.typed
    let partition ← partitionIDForRow host.loadLocation host.renderers call.schema values
    return { record with
      partition := partition
      id := rowID host call.networkID call.schema.tableID call.statementID ordinal }

def writeOutput (written : SortRun × SortState) (numbered : SortRecord × Nat) :
    Option (SortRun × SortState) := do
  let (run, state) := written
  let record ← outputRecord host call numbered.2 numbered.1
  let outputBytes ← checkedAdd state.outputBytes record.size
  if call.limits.maxOutputBytes.toNat < outputBytes then
    none
  else
    writeRecord host call (run, { state with outputBytes := outputBytes }) record

def outputCommitmentJson (rowHashes : List Bytes) (rowCount : Nat) : Json := .object [
    ("target_table_id", .text call.schema.tableID),
    ("schema_hash", .text (tableSchemaHash host.primitives call.networkID call.schema)),
    ("row_count", .number rowCount),
    ("row_hashes", .array (rowHashes.map .text))]

/-- The hash of an output commitment, with the checks of its fields. -/
def outputCommitmentHash (rowHashes : List Bytes) (rowCount : Nat) : Option Bytes :=
  if trimUnicodeSpace call.schema.tableID = [] ∨
      trimUnicodeSpace (tableSchemaHash host.primitives call.networkID call.schema) = [] ∨
      rowCount ≠ rowHashes.length ∨ [] ∈ rowHashes then
    none
  else
    some (canonicalDigest host.primitives.sum256 (ascii "snapshot-query-output-v1")
      (outputCommitmentJson host call rowHashes rowCount))

/-- The records of the sorted run, if there is one. -/
def readSorted (state : SortState) : Option SortRun → Option (List SortRecord × SortState)
  | none => some ([], state)
  | some run => readRun host call state run

def finishOutput (state : SortState) (input : Option SortRun) : Option CanonicalOutput := do
  memory call state state.retained state.maxWorkspace 0
  let (run, state) ← newWriter host call state
  let (records, state) ← readSorted host call state input
  -- as many records as rows: neither a missing nor an extra one
  if records.length ≠ state.rows then
    none
  else do
    let (run, state) ← records.zipIdx.foldlM (writeOutput host call) (run, state)
    let hashes := records.map fun record => digestBytes host.primitives.sum256 record.key
    let root ← outputCommitmentHash host call hashes state.rows
    let _ ← attempt host state
    return {
      run := run
      root := root
      hashes := hashes
      partitions := sortTexts (run.records.map SortRecord.partition).dedup }

/-- `outputRows.Next` for the record at an ordinal. -/
def outputRow (numbered : SortRecord × Nat) : Option (Row Value) := do
  let (record, ordinal) := numbered
  if output.hashes[ordinal]? ≠ some (digestBytes host.primitives.sum256 record.key) then
    none
  else if record.id ≠ rowID host call.networkID call.schema.tableID call.statementID ordinal then
    none
  else do
    let values ← decodeTyped host.loadLocation call.schema record.typed
    let partition ← partitionIDForRow host.loadLocation host.renderers call.schema values
    if partition ≠ record.partition then
      none
    else
      return {
        rowID := record.id
        values := values
        partitionID := partition
        rawBytes := UInt64.ofNat record.size }

/-- The checks that the run reader makes on the way. -/
def recordsCheck (run : SortRun) : Option Bytes → List SortRecord → Option Unit
  | _, [] => some ()
  | previous, record :: rest => do
      checkRead host call run previous record
      recordsCheck run (some record.key) rest

/-- All rows that a reader of the output hands out. -/
def outputRows : Option (List (Row Value)) := do
  recordsCheck host call output.run none output.run.records
  output.run.records.zipIdx.mapM (outputRow host call output)

end Output

section Calls

variable (host : Host) (call : Call)

def sortBaseBytes : Nat := 32768

def addTexts (base : Nat) (text : Bytes) : Option Nat := do
  let reserved ← checkedMul text.length 64
  checkedAdd base reserved

def addColumn (base : Nat) (column : Column) : Option Nat := do
  let reserved ← checkedMul (column.name.length + column.type.length) 64
  let reserved ← checkedAdd reserved 1024
  checkedAdd base reserved

/-- Named, not the injected row id, once each, and of an admitted type. -/
def columnsValid : List Bytes → List Column → Bool
  | _, [] => true
  | seen, column :: rest =>
    column.name != [] && column.name != ascii "_hg_row_id" && !seen.contains column.name &&
      (resolveColumnProfile host.loadLocation column.type).isSome &&
      columnsValid (column.name :: seen) rest

def newSortState : Option SortState := do
  let directory ← checkedMul (call.tempDir.length + 64) 16
  let base ← checkedAdd sortBaseBytes directory
  let base ← [call.networkID, call.statementID, call.schema.tableID,
      call.schema.partitionBy].foldlM addTexts base
  let base ← call.schema.columns.foldlM addColumn base
  fitInt base
  if call.limits.maxSortMemoryBytes.toNat < base ∨
      columnsValid host [] call.schema.columns = false ∨
      (call.schema.partitionBy ≠ [] ∧
        call.schema.partitionBy ∉ call.schema.columns.map Column.name) then
    none
  else
    some {
      base := base, retained := 0, maxWorkspace := 0, runMemory := 0
      spill := 0, outputBytes := 0, projectedOutput := 0, rows := 0
      records := [], levels := List.replicate 64 none, attempts := 0 }

/-- What a row stream hands out, up to its end. -/
structure RowStream where
  rows : List (List Value)
  ending : StreamEnd

/-- One row of the stream, between two looks at the context. -/
def addRow (state : SortState) (values : List Value) : Option SortState := do
  let state ← attempt host state
  add host call state values

def canonicalize (input : RowStream) : Option CanonicalOutput :=
  if validateQueryLimits call.limits = false ∨
      (2 ^ 63 - 1) / 1000000 < call.limits.maxExecutionMS.toNat ∨
      call.networkID = [] ∨ call.statementID = [] ∨
      call.schema.tableID = [] ∨ call.schema.columns = [] ∨
      maxUint32 < call.networkID.length ∨
      maxUint32 < call.statementID.length ∨ maxUint32 < call.schema.tableID.length then
    none
  else do
    let state ← newSortState host call
    let state ← attempt host state
    let state ← input.rows.foldlM (addRow host call) state
    if input.ending = .failed then
      none
    else do
      let state ← attempt host state
      let state ← flush host call state
      let (run, state) ← finishRuns host call state
      finishOutput host call state run

end Calls

end HouseGate.SnapshotOutput
