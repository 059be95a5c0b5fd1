import HouseGate.CheckedSteps
import HouseGate.JsonText
import HouseGate.KeyedSort

namespace HouseGate.Replay

open DecimalText AsciiText HexText JsonDocument KeyedSort CheckedSteps

/-!
# Safe snapshot manifests

A manifest lists the tables of a safe state, the root of every partition and
the parts behind it.  Its roots are digests of canonical JSON: the data root of
the table ids and partition roots, the state root of the data root and the
schema and executor identities, the manifest root of everything but the
manifest root and the snapshot id.  Listings are sorted before they are
hashed.  An absent slice and an empty one are both the empty list here: the
normal form of a manifest holds no empty slice, and the remaining ones are
omitted when they are empty.
-/

/-- The root of one partition. -/
structure PartitionCommitment where
  tableID : Bytes
  partitionID : Bytes
  root : Bytes
  deriving DecidableEq

/-- An active part and the hashes that commit to it. -/
structure PartManifestEntry where
  tableID : Bytes
  partitionID : Bytes
  partName : Bytes
  partPhysHash : Bytes
  partRowLtHash : Bytes
  rowCount : UInt64
  bytes : UInt64
  storageRefs : List Bytes
  deriving DecidableEq

/-- A table's partitions and active parts. -/
structure TableManifest where
  tableID : Bytes
  schemaHash : Bytes
  partitionRoots : List PartitionCommitment
  activeParts : List PartManifestEntry
  deriving DecidableEq

/-- How far an indexer's track is represented. -/
structure TrackFrontier where
  indexerID : UInt64
  safeBlockSeq : UInt64
  appliedPromotionSeq : UInt64
  deriving DecidableEq

/-- All that a snapshot commits to. -/
structure SafeSnapshotManifest where
  snapshotID : Bytes
  parentSnapshotID : Bytes
  safeBlockSeq : UInt64
  stateRoot : Bytes
  schemaSnapshotID : Bytes
  schemaRoot : Bytes
  executorProfileID : Bytes
  dataRoot : Bytes
  manifestRoot : Bytes
  tables : List TableManifest
  trackFrontiers : List TrackFrontier

section Digests

variable (sum256 : Bytes → Bytes)

/-- `DigestBytes` over the given `sha256.Sum256`. -/
def digestBytes (content : Bytes) : Bytes :=
  ascii "0x" ++ encodeHex (sum256 content)

theorem digestBytes_ne_nil (content : Bytes) : digestBytes sum256 content ≠ [] :=
  List.cons_ne_nil _ _

/-- The bytes that `canonicalDigest` hashes. -/
def canonicalPreimage (domain : Bytes) (value : Json) : Bytes :=
  ascii "housegate-replay-mvp-v0:" ++ domain ++ [0] ++ JsonText.marshal value

def canonicalDigest (domain : Bytes) (value : Json) : Bytes :=
  digestBytes sum256 (canonicalPreimage domain value)

end Digests

section Documents

/-- A slice that is absent when it is empty. -/
def sliceJson (encode : α → Json) (items : List α) : Json :=
  if items.isEmpty then .null else .array (items.map encode)

/-- A member that is left out when its slice is empty. -/
def omitEmptySlice (name : String) (encode : α → Json) (items : List α) : List (String × Json) :=
  if items.isEmpty then [] else [(name, .array (items.map encode))]

/-- A member that is left out when its text is empty. -/
def omitEmptyText (name : String) (text : Bytes) : List (String × Json) :=
  if text.isEmpty then [] else [(name, .text text)]

def uintJson (value : UInt64) : Json := .number value.toNat

def PartitionCommitment.json (commitment : PartitionCommitment) : Json := .object [
    ("table_id", .text commitment.tableID),
    ("partition_id", .text commitment.partitionID),
    ("root", .text commitment.root)]

def PartManifestEntry.json (part : PartManifestEntry) : Json := .object ([
    ("table_id", .text part.tableID),
    ("partition_id", .text part.partitionID),
    ("part_name", .text part.partName),
    ("part_phys_hash", .text part.partPhysHash),
    ("part_row_lthash", .text part.partRowLtHash),
    ("row_count", uintJson part.rowCount),
    ("bytes", uintJson part.bytes)] ++
    omitEmptySlice "storage_refs" Json.text part.storageRefs)

def TableManifest.json (table : TableManifest) : Json := .object [
    ("table_id", .text table.tableID),
    ("schema_hash", .text table.schemaHash),
    ("partition_roots", sliceJson PartitionCommitment.json table.partitionRoots),
    ("active_parts", sliceJson PartManifestEntry.json table.activeParts)]

def TrackFrontier.json (frontier : TrackFrontier) : Json := .object [
    ("indexer_id", uintJson frontier.indexerID),
    ("safe_block_seq", uintJson frontier.safeBlockSeq),
    ("applied_promotion_seq", uintJson frontier.appliedPromotionSeq)]

end Documents

section NormalForm

/-- The order of partition roots: by table, then by partition. -/
def PartitionCommitment.key (commitment : PartitionCommitment) : List Nat ×ₗ List Nat :=
  toLex (textKey commitment.tableID, textKey commitment.partitionID)

/-- The order of parts: by table, then by partition, then by name. -/
def PartManifestEntry.key (part : PartManifestEntry) : List Nat ×ₗ (List Nat ×ₗ List Nat) :=
  toLex (textKey part.tableID, toLex (textKey part.partitionID, textKey part.partName))

theorem PartitionCommitment.key_inj {left right : PartitionCommitment} : left.key = right.key ↔
    (left.tableID, left.partitionID) = (right.tableID, right.partitionID) := by
  simp [key]

theorem PartManifestEntry.key_inj {left right : PartManifestEntry} : left.key = right.key ↔
    (left.tableID, left.partitionID, left.partName) =
      (right.tableID, right.partitionID, right.partName) := by
  simp [key]

def TableManifest.key (table : TableManifest) : List Nat := textKey table.tableID

def TableManifest.normalized (table : TableManifest) : TableManifest := { table with
    partitionRoots := sortBy PartitionCommitment.key table.partitionRoots
    activeParts := sortBy PartManifestEntry.key table.activeParts }

/-- Sorted listings; track frontiers keep their order. -/
def SafeSnapshotManifest.normalized (manifest : SafeSnapshotManifest) : SafeSnapshotManifest :=
  { manifest with
    tables := sortBy TableManifest.key (manifest.tables.map TableManifest.normalized) }

end NormalForm

section Roots

def dataRootDomain : Bytes := ascii "safe-snapshot-data-v2"

def stateRootDomain : Bytes := ascii "safe-snapshot-state"

def manifestRootDomain : Bytes := ascii "safe-snapshot-manifest"

/-- What the data root holds of a table. -/
def TableManifest.dataJson (table : TableManifest) : Json := .object [
    ("table_id", .text table.tableID),
    ("partition_roots", sliceJson PartitionCommitment.json table.partitionRoots)]

variable (manifest : SafeSnapshotManifest)

def SafeSnapshotManifest.dataJson : Json :=
  sliceJson TableManifest.dataJson manifest.normalized.tables

variable (sum256 : Bytes → Bytes) (manifest : SafeSnapshotManifest)

def SafeSnapshotManifest.computeDataRoot : Bytes :=
  canonicalDigest sum256 dataRootDomain manifest.dataJson

def SafeSnapshotManifest.stateJson : Json := .object [
    ("schema_snapshot_id", .text manifest.schemaSnapshotID),
    ("schema_root", .text manifest.schemaRoot),
    ("executor_profile_id", .text manifest.executorProfileID),
    ("data_root", .text manifest.dataRoot)]

def SafeSnapshotManifest.computeStateRoot : Bytes :=
  canonicalDigest sum256 stateRootDomain manifest.stateJson

/-- Everything but the manifest root and the snapshot id. -/
def SafeSnapshotManifest.manifestJson : Json :=
  let normal := manifest.normalized
  .object (omitEmptyText "parent_snapshot_id" normal.parentSnapshotID ++ [
    ("safe_block_seq", uintJson normal.safeBlockSeq),
    ("state_root", .text normal.stateRoot),
    ("schema_snapshot_id", .text normal.schemaSnapshotID),
    ("schema_root", .text normal.schemaRoot),
    ("executor_profile_id", .text normal.executorProfileID),
    ("data_root", .text normal.dataRoot),
    ("tables", sliceJson TableManifest.json normal.tables)] ++
    omitEmptySlice "track_frontiers" TrackFrontier.json normal.trackFrontiers)

def SafeSnapshotManifest.computeManifestRoot : Bytes :=
  canonicalDigest sum256 manifestRootDomain manifest.manifestJson

/-- `AssembleStateRoot`: the two roots of a table set without a manifest. -/
def assembleStateRoot
    (schemaSnapshotID schemaRoot executorProfileID : Bytes) (tables : List TableManifest) :
    Bytes × Bytes :=
  let view : SafeSnapshotManifest :=
    { snapshotID := [], parentSnapshotID := [], safeBlockSeq := 0
      stateRoot := [], schemaSnapshotID, schemaRoot, executorProfileID
      dataRoot := [], manifestRoot := [], tables, trackFrontiers := [] }
  let dataRoot := view.computeDataRoot sum256
  (dataRoot, SafeSnapshotManifest.computeStateRoot sum256 { view with dataRoot := dataRoot })

end Roots

section Seal

variable (sum256 : Bytes → Bytes) (manifest : SafeSnapshotManifest)

def SafeSnapshotManifest.withDataRoot : SafeSnapshotManifest :=
  { manifest with dataRoot := manifest.computeDataRoot sum256 }

def SafeSnapshotManifest.withStateRoot : SafeSnapshotManifest :=
  { manifest with stateRoot := manifest.computeStateRoot sum256 }

def SafeSnapshotManifest.withManifestRoot : SafeSnapshotManifest :=
  { manifest with manifestRoot := manifest.computeManifestRoot sum256 }

/-- A manifest without an id is named by its manifest root. -/
def SafeSnapshotManifest.withSnapshotID (manifest : SafeSnapshotManifest) : SafeSnapshotManifest :=
  { manifest with
    snapshotID :=
      if manifest.snapshotID = [] then manifest.manifestRoot
      else manifest.snapshotID }

/-- `Seal` sorts the listings and fills the roots in, one from the other. -/
def SafeSnapshotManifest.seal : SafeSnapshotManifest :=
  (((manifest.normalized.withDataRoot sum256).withStateRoot
    sum256).withManifestRoot sum256).withSnapshotID

/-- Why a manifest was refused. -/
inductive ManifestRefusal where
  | snapshotIDRequired
  | stateRootRequired
  | schemaSnapshotIDRequired
  | schemaRootRequired
  | executorProfileIDRequired
  | manifestRootRequired
  | trackFrontiersUnsorted
  | dataRootMismatch
  | stateRootMismatch
  | manifestRootMismatch

/-- Strictly ascending by indexer. -/
def trackFrontiersSorted : List TrackFrontier → Bool
  | [] => true
  | [_] => true
  | first :: second :: rest =>
    first.indexerID < second.indexerID && trackFrontiersSorted (second :: rest)

def SafeSnapshotManifest.validate : Except ManifestRefusal Unit :=
  let normal := manifest.normalized
  if manifest.snapshotID = [] then
    .error .snapshotIDRequired
  else if manifest.stateRoot = [] then
    .error .stateRootRequired
  else if manifest.schemaSnapshotID = [] then
    .error .schemaSnapshotIDRequired
  else if manifest.schemaRoot = [] then
    .error .schemaRootRequired
  else if manifest.executorProfileID = [] then
    .error .executorProfileIDRequired
  else if manifest.manifestRoot = [] then
    .error .manifestRootRequired
  else if trackFrontiersSorted manifest.trackFrontiers = false then
    .error .trackFrontiersUnsorted
  else if manifest.dataRoot ≠ normal.computeDataRoot sum256 then
    .error .dataRootMismatch
  else if manifest.stateRoot ≠ normal.computeStateRoot sum256 then
    .error .stateRootMismatch
  else if manifest.manifestRoot ≠ normal.computeManifestRoot sum256 then
    .error .manifestRootMismatch
  else
    .ok ()

end Seal

variable {table : TableManifest}

section Laws

@[simp] theorem TableManifest.normalized_key (table : TableManifest) :
    table.normalized.key = table.key :=
  rfl

@[simp] theorem TableManifest.normalized_normalized (table : TableManifest) :
    table.normalized.normalized = table.normalized := by
  simp [TableManifest.normalized]

variable (manifest : SafeSnapshotManifest)

theorem SafeSnapshotManifest.normalized_tables : manifest.normalized.tables =
    (sortBy TableManifest.key manifest.tables).map
      TableManifest.normalized :=
  sortBy_map _ _ _ TableManifest.normalized_key _

@[simp] theorem SafeSnapshotManifest.normalized_normalized :
    manifest.normalized.normalized = manifest.normalized := by
  have same : manifest.normalized.normalized.tables = manifest.normalized.tables := by
    rw [normalized_tables, normalized_tables, sortBy_map _ _ _ TableManifest.normalized_key,
      sortBy_sortBy, List.map_map]
    apply List.map_congr_left
    intro table _
    exact table.normalized_normalized
  calc manifest.normalized.normalized = { manifest.normalized with
      tables := manifest.normalized.normalized.tables } := rfl
    _ = manifest.normalized := by rw [same]

/-- A table of the normal form is the normal form of a listed table. -/
theorem SafeSnapshotManifest.mem_normalized_tables
    {manifest : SafeSnapshotManifest} {table : TableManifest} :
    table ∈ manifest.normalized.tables ↔ ∃ listed ∈ manifest.tables, listed.normalized = table := by
  simp [SafeSnapshotManifest.normalized]

@[simp] theorem TableManifest.mem_normalized_partitionRoots {commitment : PartitionCommitment} :
    commitment ∈ table.normalized.partitionRoots ↔ commitment ∈ table.partitionRoots := by
  simp [TableManifest.normalized]

@[simp] theorem TableManifest.mem_normalized_activeParts {part : PartManifestEntry} :
    part ∈ table.normalized.activeParts ↔ part ∈ table.activeParts := by
  simp [TableManifest.normalized]

@[simp] theorem SafeSnapshotManifest.dataJson_normalized :
    manifest.normalized.dataJson = manifest.dataJson := by
  simp [SafeSnapshotManifest.dataJson]

@[simp] theorem SafeSnapshotManifest.manifestJson_normalized :
    manifest.normalized.manifestJson = manifest.manifestJson := by
  simp [SafeSnapshotManifest.manifestJson]

variable {sum256 : Bytes → Bytes}
  (manifest : SafeSnapshotManifest)

@[simp] theorem SafeSnapshotManifest.computeDataRoot_normalized :
    manifest.normalized.computeDataRoot sum256 = manifest.computeDataRoot sum256 := by
  simp [SafeSnapshotManifest.computeDataRoot]

@[simp] theorem SafeSnapshotManifest.computeStateRoot_normalized :
    manifest.normalized.computeStateRoot sum256 = manifest.computeStateRoot sum256 :=
  rfl

@[simp] theorem SafeSnapshotManifest.computeManifestRoot_normalized :
    manifest.normalized.computeManifestRoot sum256 = manifest.computeManifestRoot sum256 := by
  simp [SafeSnapshotManifest.computeManifestRoot]

/-- What `Validate` has checked of a manifest it accepts. -/
structure SafeSnapshotManifest.Valid (sum256 : Bytes → Bytes) (manifest : SafeSnapshotManifest) :
    Prop where
  snapshotID : manifest.snapshotID ≠ []
  stateRoot : manifest.stateRoot ≠ []
  schemaSnapshotID : manifest.schemaSnapshotID ≠ []
  schemaRoot : manifest.schemaRoot ≠ []
  executorProfileID : manifest.executorProfileID ≠ []
  manifestRoot : manifest.manifestRoot ≠ []
  frontiers : trackFrontiersSorted manifest.trackFrontiers = true
  dataRootEq : manifest.dataRoot = manifest.computeDataRoot sum256
  stateRootEq : manifest.stateRoot = manifest.computeStateRoot sum256
  manifestRootEq : manifest.manifestRoot = manifest.computeManifestRoot sum256

theorem SafeSnapshotManifest.validate_ok_iff {manifest : SafeSnapshotManifest} :
    manifest.validate sum256 = .ok () ↔ manifest.Valid sum256 := by
  simp only [SafeSnapshotManifest.validate, computeDataRoot_normalized,
    computeStateRoot_normalized, computeManifestRoot_normalized,
    guard_eq_ok_iff, ne_eq, not_not, Bool.not_eq_false, and_true]
  constructor
  · rintro ⟨snapshotID, stateRoot, schemaSnapshotID, schemaRoot,
      executorProfileID, manifestRoot, frontiers, dataRootEq, stateRootEq,
      manifestRootEq⟩
    exact ⟨snapshotID, stateRoot, schemaSnapshotID, schemaRoot,
      executorProfileID, manifestRoot, frontiers, dataRootEq, stateRootEq,
      manifestRootEq⟩
  · intro valid
    exact ⟨valid.snapshotID, valid.stateRoot, valid.schemaSnapshotID,
      valid.schemaRoot, valid.executorProfileID, valid.manifestRoot,
      valid.frontiers, valid.dataRootEq, valid.stateRootEq,
      valid.manifestRootEq⟩

/-- The identities that a caller of `Seal` has to fill in. -/
structure SafeSnapshotManifest.Identified (manifest : SafeSnapshotManifest) : Prop where
  schemaSnapshotID : manifest.schemaSnapshotID ≠ []
  schemaRoot : manifest.schemaRoot ≠ []
  executorProfileID : manifest.executorProfileID ≠ []
  frontiers : trackFrontiersSorted manifest.trackFrontiers = true

@[simp] theorem SafeSnapshotManifest.seal_tables :
    (manifest.seal sum256).tables = manifest.normalized.tables :=
  rfl

@[simp] theorem SafeSnapshotManifest.seal_normalized :
    (manifest.seal sum256).normalized = manifest.seal sum256 := by
  have same : manifest.normalized.normalized.tables = manifest.normalized.tables := by
    rw [normalized_normalized]
  calc (manifest.seal sum256).normalized = { manifest.seal sum256 with
      tables := manifest.normalized.normalized.tables } := rfl
    _ = { manifest.seal sum256 with
        tables := manifest.normalized.tables } := by rw [same]
    _ = manifest.seal sum256 := rfl

theorem SafeSnapshotManifest.seal_dataRoot :
    (manifest.seal sum256).dataRoot = (manifest.seal sum256).computeDataRoot sum256 :=
  rfl

theorem SafeSnapshotManifest.seal_snapshotID_ne_nil : (manifest.seal sum256).snapshotID ≠ [] := by
  change (if manifest.snapshotID = [] then (manifest.seal sum256).manifestRoot
      else manifest.snapshotID) ≠ []
  split
  · exact digestBytes_ne_nil _ _
  · assumption

/-- A sealed manifest with its identities filled in passes `Validate`. -/
theorem SafeSnapshotManifest.Identified.valid_seal
    {manifest : SafeSnapshotManifest} (identified : manifest.Identified) :
    (manifest.seal sum256).Valid sum256 where
  snapshotID := manifest.seal_snapshotID_ne_nil
  stateRoot := digestBytes_ne_nil _ _
  schemaSnapshotID := identified.schemaSnapshotID
  schemaRoot := identified.schemaRoot
  executorProfileID := identified.executorProfileID
  manifestRoot := digestBytes_ne_nil _ _
  frontiers := identified.frontiers
  dataRootEq := manifest.seal_dataRoot
  stateRootEq := rfl
  manifestRootEq := rfl

end Laws

section Listings

/-- One table with its partition roots and parts in another order. -/
structure TableManifest.Relisted (table other : TableManifest) : Prop where
  tableID : table.tableID = other.tableID
  schemaHash : table.schemaHash = other.schemaHash
  partitionRoots : table.partitionRoots.Perm other.partitionRoots
  activeParts : table.activeParts.Perm other.activeParts

/-- No partition and no part of a table is listed twice. -/
structure TableManifest.Unique (table : TableManifest) : Prop where
  partitionRoots : (table.partitionRoots.map fun root => (root.tableID, root.partitionID)).Nodup
  activeParts :
    (table.activeParts.map fun part => (part.tableID, part.partitionID, part.partName)).Nodup

/-- One manifest with its tables, and the listings of each, in another order. -/
structure SafeSnapshotManifest.Relisted (manifest other : SafeSnapshotManifest) : Prop where
  tables : ∃ relisted,
    List.Forall₂ TableManifest.Relisted manifest.tables relisted ∧ relisted.Perm other.tables
  others : other = { manifest with tables := other.tables }

/-- Nothing is listed twice. -/
structure SafeSnapshotManifest.Unique (manifest : SafeSnapshotManifest) : Prop where
  tables : (manifest.tables.map TableManifest.tableID).Nodup
  listings : ∀ table ∈ manifest.tables, table.Unique

variable {manifest other : SafeSnapshotManifest}

theorem TableManifest.Relisted.normalized
    {other : TableManifest}
    (relisted : table.Relisted other)
    (unique : table.Unique) :
    table.normalized = other.normalized := by
  obtain ⟨sameID, sameHash, roots, parts⟩ := relisted
  have rootKeys := nodup_map_key unique.partitionRoots fun _ _ => PartitionCommitment.key_inj.mp
  have partKeys := nodup_map_key unique.activeParts fun _ _ => PartManifestEntry.key_inj.mp
  rw [TableManifest.normalized, TableManifest.normalized, sameID, sameHash,
    sortBy_eq_of_perm rootKeys roots, sortBy_eq_of_perm partKeys parts]

/-- The normal form does not depend on the order of the listings. -/
theorem SafeSnapshotManifest.Relisted.normalized
    (relisted : manifest.Relisted other) (unique : manifest.Unique) :
    manifest.normalized = other.normalized := by
  obtain ⟨⟨tables, same, permuted⟩, others⟩ := relisted
  have normals : manifest.tables.map TableManifest.normalized =
      tables.map TableManifest.normalized := by
    rw [← List.forall₂_eq_eq_eq, List.forall₂_map_left_iff, List.forall₂_map_right_iff]
    apply ((List.forall₂_and_left _ _).mpr ⟨unique.listings, same⟩).imp
    rintro table other ⟨listings, relisted⟩
    exact relisted.normalized listings
  have keys : ((manifest.tables.map TableManifest.normalized).map TableManifest.key).Nodup := by
    rw [List.map_map]
    exact (List.map_map ▸ unique.tables.map textKey_injective :)
  rw [SafeSnapshotManifest.normalized, sortBy_eq_of_perm keys (normals ▸ permuted.map _), others]
  rfl

/--
Roots ignore the order of the listings, and `Seal` gives a fixed point that
`Validate` accepts.
-/
theorem SafeSnapshotManifest.roots_of_listings
    (sum256 : Bytes → Bytes)
    (manifest : SafeSnapshotManifest) :
    (manifest.Unique → ∀ other, manifest.Relisted other →
      manifest.computeDataRoot sum256 = other.computeDataRoot sum256 ∧
        manifest.computeManifestRoot sum256 = other.computeManifestRoot sum256) ∧
      (manifest.seal sum256).seal sum256 = manifest.seal sum256 ∧
      (manifest.Identified → (manifest.seal sum256).validate sum256 = .ok ()) := by
  refine ⟨?_, ?_, fun identified => validate_ok_iff.mpr identified.valid_seal⟩
  · intro unique other relisted
    have same := relisted.normalized unique
    rw [← computeDataRoot_normalized, ← manifest.computeManifestRoot_normalized, same,
      computeDataRoot_normalized, computeManifestRoot_normalized]
    exact ⟨rfl, rfl⟩
  · rw [SafeSnapshotManifest.seal, seal_normalized]
    change { manifest.seal sum256 with
      snapshotID := if (manifest.seal sum256).snapshotID = []
        then (manifest.seal sum256).manifestRoot
        else (manifest.seal sum256).snapshotID } = _
    rw [if_neg manifest.seal_snapshotID_ne_nil]

/-- A table with a part in each of two partitions. -/
def pairTable (tableID : Bytes) : TableManifest :=
  { tableID := tableID
    schemaHash := [1]
    partitionRoots := [⟨tableID, [1], [7]⟩, ⟨tableID, [2], [8]⟩]
    activeParts := [⟨tableID, [1], [3], [4], [5], 1, 1, []⟩,
      ⟨tableID, [2], [3], [4], [6], 1, 1, []⟩] }

/-- The same table, with its listings the other way round. -/
def TableManifest.reversed (table : TableManifest) : TableManifest :=
  { table with
    partitionRoots := table.partitionRoots.reverse
    activeParts := table.activeParts.reverse }

/-- A manifest of the given tables that is still to be sealed. -/
def unsealed (tables : List TableManifest) : SafeSnapshotManifest :=
  ⟨[], [], 1, [], [1], [2], [3], [], [], tables, [⟨0, 1, 0⟩, ⟨1, 1, 0⟩]⟩

/-- Two tables, listed in reverse with all that they list. -/
theorem SafeSnapshotManifest.roots_of_swapped_tables :
    (unsealed [pairTable [1], pairTable [2]]).computeDataRoot id =
        (unsealed [(pairTable [2]).reversed, (pairTable [1]).reversed]).computeDataRoot id ∧
      ((unsealed [pairTable [1], pairTable [2]]).seal id).validate id = .ok () := by
  have unique : (unsealed [pairTable [1], pairTable [2]]).Unique := by
    refine ⟨by decide, ?_⟩
    intro table member
    simp only [unsealed, List.mem_cons, List.not_mem_nil, or_false] at member
    rcases member with rfl | rfl <;> constructor <;> decide
  have relists : ∀ table : TableManifest, table.Relisted table.reversed :=
    fun table => ⟨rfl, rfl, (List.reverse_perm _).symm, (List.reverse_perm _).symm⟩
  have relisted : (unsealed [pairTable [1], pairTable [2]]).Relisted
      (unsealed [(pairTable [2]).reversed, (pairTable [1]).reversed]) :=
    ⟨⟨_, .cons (relists _) (.cons (relists _) .nil), .swap _ _ _⟩, rfl⟩
  have laws := roots_of_listings id (unsealed [pairTable [1], pairTable [2]])
  exact ⟨(laws.1 unique _ relisted).1, laws.2.2 (by constructor <;> decide)⟩

end Listings

end HouseGate.Replay
