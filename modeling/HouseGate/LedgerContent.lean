import Mathlib.Algebra.BigOperators.Group.Multiset.Basic
import HouseGate.LedgerChain

namespace HouseGate.Replay

open AsciiText DecimalText JsonDocument KeyedSort LtHash CheckedSteps MapFolds List Function
open PartitionCommitment
open SafeSnapshotManifest

/-!
# The data root is the content

The data root of a manifest is a digest of its table ids and its partition
roots and of nothing else.  Appending rows changes the root of a partition by
the sum of the row elements that were added to it, so that the data root does
not depend on the order of the rows or on how they were cut into statements and
blocks.
-/

variable {left right : SafeSnapshotManifest}

section DataRoot

/-- Two manifests with the same tables and the same partition roots. -/
structure SameContent (left right : SafeSnapshotManifest) : Prop where
  tables : ∀ tableID, tableID ∈ left.tableIDs ↔ tableID ∈ right.tableIDs
  commitments : ∀ commitment, commitment ∈ left.commitments ↔ commitment ∈ right.commitments

/-- The table ids in order, each with its roots in order. -/
def SafeSnapshotManifest.dataEntries (manifest : SafeSnapshotManifest) :
    List (Bytes × List PartitionCommitment) :=
  (sortTexts manifest.tableIDs).map fun tableID =>
    (tableID, sortBy key
        (manifest.commitments.filter fun commitment => commitment.tableID == tableID))

def dataEntryJson (entry : Bytes × List PartitionCommitment) : Json := .object [
    ("table_id", .text entry.1),
    ("partition_roots", sliceJson json entry.2)]

theorem sliceJson_map
    {β γ : Type}
    (encode : γ → Json)
    (image : β → γ)
    (items : List β) :
    sliceJson encode (items.map image) = sliceJson (fun item => encode (image item)) items := by
  simp [sliceJson, comp_def]

theorem sliceJson_injective
    {β : Type}
    {encode : β → Json}
    (injective : Injective encode) :
    Injective (sliceJson encode) := by
  intro left right same
  cases left with
  | nil =>
    cases right with
    | nil => rfl
    | cons first rest => simp [sliceJson] at same
  | cons leftFirst leftRest =>
    cases right with
    | nil => simp [sliceJson] at same
    | cons rightFirst rightRest =>
      have mapped : (leftFirst :: leftRest).map encode = (rightFirst :: rightRest).map encode := by
        simpa [sliceJson] using same
      exact map_injective_iff.mpr injective mapped

theorem PartitionCommitment.json_injective : Injective json := by
  intro left right same
  simp only [json, Json.object.injEq, cons.injEq,
    Prod.mk.injEq, Json.text.injEq, true_and, and_true] at same
  cases left
  cases right
  simp_all

theorem dataEntryJson_injective : Injective dataEntryJson := by
  rintro ⟨leftID, leftRoots⟩ ⟨rightID, rightRoots⟩ same
  simp only [dataEntryJson, Json.object.injEq, cons.injEq,
    Prod.mk.injEq, Json.text.injEq, true_and, and_true] at same
  obtain ⟨rfl, roots⟩ := same
  rw [sliceJson_injective json_injective roots]

variable {manifest : SafeSnapshotManifest}

/-- The commitments of a table are the ones that carry its id. -/
theorem SafeSnapshotManifest.Placed.commitments_filter
    (placed : manifest.Placed)
    {table : TableManifest}
    (listed : table ∈ manifest.tables) :
    manifest.commitments.filter (fun commitment => commitment.tableID == table.tableID) =
      table.partitionRoots :=
  placed.filter_flatMap listed _ _ fun other inTables commitment member =>
    ((placed.tables other inTables).partitions commitment member).1

theorem SafeSnapshotManifest.Placed.dataJson_eq (placed : manifest.Placed) :
    manifest.dataJson = sliceJson dataEntryJson manifest.dataEntries := by
  have ids : sortTexts manifest.tableIDs = (sortBy TableManifest.key manifest.tables).map
      TableManifest.tableID :=
    sortBy_map TableManifest.key TableManifest.tableID textKey (fun _ => rfl) manifest.tables
  rw [dataJson, normalized_tables, sliceJson_map, dataEntries, ids, map_map, sliceJson_map]
  simp only [sliceJson]
  congr 2
  apply map_congr_left
  intro table member
  have listed : table ∈ manifest.tables := mem_sortBy.mp member
  simp only [comp_apply, placed.commitments_filter listed]
  rfl

/-- No two commitments stand for one partition. -/
theorem SafeSnapshotManifest.Placed.commitments_nodup (placed : manifest.Placed) :
    (manifest.commitments.map fun commitment =>
      (commitment.tableID, commitment.partitionID)).Nodup := by
  rw [commitments, map_flatMap, nodup_flatMap]
  constructor
  · intro table listed
    have placedTable := placed.tables table listed
    apply Nodup.of_map Prod.snd
    rw [map_map]
    exact placedTable.partitionsNodup
  · have distinct := placed.tablesNodup
    rw [tableIDs, Nodup, pairwise_map] at distinct
    apply Pairwise.imp_of_mem ?_ distinct
    intro first second firstListed secondListed apart label inFirst inSecond
    obtain ⟨left, leftListed, rfl⟩ := mem_map.mp inFirst
    obtain ⟨right, rightListed, same⟩ := mem_map.mp inSecond
    have leftID := ((placed.tables first firstListed).partitions left leftListed).1
    have rightID := ((placed.tables second secondListed).partitions right rightListed).1
    have sameTable : right.tableID = left.tableID := congrArg Prod.fst same
    exact apart (leftID.symm.trans (sameTable.symm.trans rightID))

/-- The preimage of the data root is determined by the content. -/
theorem dataJson_eq_of_sameContent
    (leftPlaced : left.Placed)
    (rightPlaced : right.Placed)
    (same : SameContent left right) :
    left.dataJson = right.dataJson := by
  have ids : sortTexts left.tableIDs = sortTexts right.tableIDs := by
    apply sortBy_eq_of_perm
    · exact leftPlaced.tablesNodup.map textKey_injective
    · exact (perm_ext_iff_of_nodup leftPlaced.tablesNodup
        rightPlaced.tablesNodup).mpr same.tables
  have commitments : left.commitments.Perm right.commitments := (perm_ext_iff_of_nodup
      (Nodup.of_map _ leftPlaced.commitments_nodup)
      (Nodup.of_map _ rightPlaced.commitments_nodup)).mpr same.commitments
  rw [leftPlaced.dataJson_eq, rightPlaced.dataJson_eq, dataEntries, dataEntries, ids]
  congr 1
  apply map_congr_left
  intro tableID _
  have sorted : sortBy key
      (left.commitments.filter fun commitment => commitment.tableID == tableID) = sortBy key
          (right.commitments.filter fun commitment => commitment.tableID == tableID) :=
    sortBy_eq_of_perm (Nodup.sublist (filter_sublist.map _)
      (nodup_map_key leftPlaced.commitments_nodup fun _ _ => key_inj.mp)) (commitments.filter _)
  rw [sorted]

/-- Equal preimages of the data root have the same content. -/
theorem sameContent_of_dataJson_eq (leftPlaced : left.Placed) (rightPlaced : right.Placed)
    (same : left.dataJson = right.dataJson) :
    SameContent left right := by
  rw [leftPlaced.dataJson_eq, rightPlaced.dataJson_eq] at same
  have entries := sliceJson_injective dataEntryJson_injective same
  have ids : sortTexts left.tableIDs = sortTexts right.tableIDs := by
    have firsts := congrArg (map Prod.fst) entries
    simpa [dataEntries, comp_def] using firsts
  have listed : ∀ manifest : SafeSnapshotManifest, manifest.Placed →
      ∀ commitment, commitment ∈ manifest.commitments ↔
        ∃ entry ∈ manifest.dataEntries, commitment ∈ entry.2 := by
    intro manifest placed commitment
    simp only [dataEntries, mem_map,
      exists_exists_and_eq_and, mem_sortBy, mem_filter,
      beq_iff_eq, sortTexts]
    constructor
    · intro member
      obtain ⟨table, tableListed, inTable⟩ := mem_flatMap.mp member
      have own := ((placed.tables table tableListed).partitions commitment inTable).1
      exact ⟨commitment.tableID, own ▸ mem_map_of_mem tableListed, member, rfl⟩
    · rintro ⟨_, _, member, _⟩
      exact member
  constructor
  · intro tableID
    have member := congrArg (tableID ∈ ·) ids
    simpa [sortTexts] using member
  · intro commitment
    rw [listed left leftPlaced, listed right rightPlaced, entries]

end DataRoot

variable {schema : TableSchema} {job : ReplayJob} {schemas : Map TableSchema} {blockSeq : UInt64}

section Elements

variable {α : Type} {primitives : Primitives α} {executor : Executor α}

variable (primitives)

/-- The elements of the rows of one partition. -/
def rowElements (schema : TableSchema) (rows : List (Row α)) (partitionID : Bytes) : List Bytes :=
  (rows.filter (fun row => row.partitionID == partitionID)).filterMap (rowElement primitives schema)

/-- The elements that a statement adds to a partition of a table. -/
def batchElements (schemas : Map TableSchema) (batch : StatementRows α)
    (tableID partitionID : Bytes) : List Bytes :=
  if batch.targetTableID = tableID then
    batch.rows.elim [] fun source =>
      rowElements primitives (targetSchema schemas batch) source.rows partitionID
  else
    []

/-- A job with the rows of its statements. -/
structure Block (α : Type) where
  job : ReplayJob
  batches : List (StatementRows α)

/-- The row elements that a block adds to a partition of a table. -/
def blockElements (executor : Executor α) (tableID partitionID : Bytes) (block : Block α) :
    Multiset Bytes :=
  match executor.schemasForJob primitives block.job with
  | .error _ => 0
  | .ok schemas =>
    (block.batches.flatMap fun batch =>
      batchElements primitives schemas batch tableID partitionID : List Bytes)

/-- The row elements that a run of blocks adds. -/
def addedElements (executor : Executor α) (blocks : List (Block α)) (tableID partitionID : Bytes) :
    Multiset Bytes :=
  (blocks.map (blockElements primitives executor tableID partitionID)).sum

/-- The sum of the hashes of some elements. -/
def elementSum (elements : Multiset Bytes) : Hash :=
  (elements.map primitives.elementHash).sum

variable {primitives}

theorem rowHashSum_eq_elements
    {rows : List (Row α)} (accepted : ∀ row ∈ rows, (rowElement primitives schema row).isSome)
    (partitionID : Bytes) :
    rowHashSum primitives schema rows partitionID = elementSum primitives
        (rowElements primitives schema rows partitionID : Multiset Bytes) := by
  induction rows with
  | nil => simp [rowHashSum, rowElements, elementSum]
  | cons row rest inductionHypothesis =>
    obtain ⟨head, tail⟩ := forall_mem_cons.mp accepted
    obtain ⟨element, found⟩ := Option.isSome_iff_exists.mp head
    have restSum := inductionHypothesis tail
    by_cases same : row.partitionID = partitionID
    · have value : rowHash primitives schema row = primitives.elementHash element := by
        simp [rowHash, rowElementHash, found]
      simp only [rowHashSum, rowElements, elementSum,
        Multiset.map_coe, Multiset.sum_coe] at restSum ⊢
      simp [same, found, value, restSum]
    · simp only [rowHashSum, rowElements] at restSum ⊢
      simpa [same] using restSum

/-- A partition gets elements exactly when a row names it. -/
theorem rowElements_ne_nil_iff
    {rows : List (Row α)} (accepted : ∀ row ∈ rows, (rowElement primitives schema row).isSome)
    {partitionID : Bytes} :
    rowElements primitives schema rows partitionID ≠ [] ↔
      ∃ row ∈ rows, row.partitionID = partitionID := by
  rw [ne_nil_iff_exists_cons]
  constructor
  · rintro ⟨element, _, shape⟩
    have member : element ∈ rowElements primitives schema rows partitionID := by
      rw [shape]
      exact mem_cons_self
    obtain ⟨row, listed, _⟩ := mem_filterMap.mp member
    obtain ⟨inRows, same⟩ := mem_filter.mp listed
    exact ⟨row, inRows, beq_iff_eq.mp same⟩
  · rintro ⟨row, inRows, same⟩
    obtain ⟨element, found⟩ := Option.isSome_iff_exists.mp (accepted row inRows)
    have member : element ∈ rowElements primitives schema rows partitionID := by
      apply mem_filterMap.mpr
      exact ⟨row, mem_filter.mpr ⟨inRows, beq_iff_eq.mpr same⟩, found⟩
    exact exists_cons_of_ne_nil (ne_nil_of_mem member)

theorem addCarriedSchema_keyed
    {before after : Map TableSchema}
    {carried : ReplayTableSchema}
    (keyed : SchemasKeyed before)
    (stepped : addCarriedSchema primitives before carried = .ok after) :
    SchemasKeyed after := by
  simp only [addCarriedSchema, bind_eq_ok_iff] at stepped
  obtain ⟨schema, decoded, same⟩ := stepped
  cases same
  unfold decodeTableSchemaJSON at decoded
  cases read : primitives.decodeTableSchema carried.schemaJSON with
  | none => simp [read] at decoded
  | some value =>
    simp only [read, guard_eq_ok_iff, ne_eq, not_not] at decoded
    obtain ⟨named, _, same⟩ := decoded
    cases same
    exact keyed.insert named

/-- The schemas of a job stand under their own table ids. -/
theorem schemasForJob_keyed (resolved : executor.schemasForJob primitives job = .ok schemas) :
    SchemasKeyed schemas := by
  unfold Executor.schemasForJob at resolved
  by_cases static : executor.dynamic = false
  · rw [if_pos static, guard_eq_ok_iff] at resolved
    obtain ⟨_, same⟩ := resolved
    cases same
    exact executor.keyed
  · rw [if_neg static] at resolved
    exact foldlM_processed (fun _ state => SchemasKeyed state)
      (fun _ _ _ _ _ stepped keyed => addCarriedSchema_keyed keyed stepped)
      resolved (schemasKeyed_empty.insertSchemas executor.sortedTables)

/-- The part of a partition holds the sum of its elements. -/
theorem hashSum_partsAt_builtFrom {batch : StatementRows α} {parts : List PartManifestEntry}
    (built : BuiltFrom primitives schemas blockSeq batch parts)
    (named : (targetSchema schemas batch).tableID = batch.targetTableID)
    (tableID partitionID : Bytes) :
    hashSum (partsAt parts tableID partitionID) = elementSum primitives
        (batchElements primitives schemas batch tableID partitionID : Multiset Bytes) ∧
    ((∃ part ∈ parts, part.tableID = tableID ∧ part.partitionID = partitionID) ↔
      batchElements primitives schemas batch tableID partitionID ≠ []) := by
  obtain ⟨source, supplied, made⟩ := built
  have spec := (buildParts_ok made).2
  have accepted :
      ∀ row ∈ source.rows, (rowElement primitives (targetSchema schemas batch) row).isSome :=
    fun row member => (spec.accepted row member).2
  have partTable : ∀ part ∈ parts, part.tableID = batch.targetTableID := by
    intro part member
    obtain ⟨totals, same, _⟩ := spec.built part member
    rw [same]
    exact named
  by_cases own : batch.targetTableID = tableID
  · subst own
    have elements : batchElements primitives schemas batch batch.targetTableID partitionID =
        rowElements primitives (targetSchema schemas batch) source.rows
          partitionID := by
      simp [batchElements, supplied]
    have byPartition : partsAt parts batch.targetTableID partitionID =
        parts.filter (fun part => part.partitionID == partitionID) := by
      apply filter_congr
      intro part member
      simp [partTable part member]
    have mentioned : (∃ part ∈ parts, part.tableID = batch.targetTableID ∧
        part.partitionID = partitionID) ↔ ∃ row ∈ source.rows, row.partitionID = partitionID := by
      rw [← spec.partitions partitionID, mem_map]
      constructor
      · rintro ⟨part, member, _, same⟩
        exact ⟨part, member, same⟩
      · rintro ⟨part, member, same⟩
        exact ⟨part, member, partTable part member, same⟩
    rw [elements, byPartition, mentioned, rowElements_ne_nil_iff accepted]
    refine ⟨?_, Iff.rfl⟩
    rw [← rowHashSum_eq_elements accepted]
    by_cases present : ∃ row ∈ source.rows, row.partitionID = partitionID
    · obtain ⟨part, member, rfl⟩ := mem_map.mp ((spec.partitions partitionID).mpr present)
      obtain ⟨totals, same, accEq⟩ := spec.built part member
      rw [filter_label_eq_singleton spec.distinct member]
      have value : partHash part = totals.acc := by
        rw [same]
        simp [partHash, newPart_decodes]
      simp [hashSum, value, accEq]
    · have none_listed : parts.filter (fun part => part.partitionID == partitionID) = [] := by
        rw [filter_eq_nil_iff]
        intro part member same
        exact present ((spec.partitions partitionID).mp
          (mem_map.mpr ⟨part, member, beq_iff_eq.mp same⟩))
      rw [none_listed, hashSum_nil, rowHashSum_of_absent]
      intro row member same
      exact present ⟨row, member, same⟩
  · have elements : batchElements primitives schemas batch tableID partitionID = [] := by
      simp [batchElements, own]
    have none_listed : partsAt parts tableID partitionID = [] := by
      rw [partsAt, filter_eq_nil_iff]
      intro part member
      simp [partTable part member, own]
    rw [elements, none_listed]
    refine ⟨by simp [elementSum], ?_⟩
    constructor
    · rintro ⟨part, member, same, _⟩
      exact absurd ((partTable part member).symm.trans same) own
    · intro impossible
      exact absurd rfl impossible

theorem elementSum_add (first second : Multiset Bytes) : elementSum primitives (first + second) =
    elementSum primitives first + elementSum primitives second := by
  simp [elementSum]

theorem targetSchema_tableID (keyed : SchemasKeyed schemas) {batch : StatementRows α}
    (present : schemas.lookup batch.targetTableID ≠ none) :
    (targetSchema schemas batch).tableID = batch.targetTableID := by
  obtain ⟨schema, found⟩ := Option.ne_none_iff_exists'.mp present
  rw [targetSchema, found, Option.getD_some]
  exact keyed batch.targetTableID schema found

/-- The parts of some statements hold the elements of their rows. -/
theorem hashSum_partsAt_flatten
    {batches : List (StatementRows α)} {built : List (List PartManifestEntry)}
    (paired : Forall₂ (BuiltFrom primitives schemas blockSeq) batches built)
    (named : ∀ batch ∈ batches, (targetSchema schemas batch).tableID = batch.targetTableID)
    (tableID partitionID : Bytes) :
    hashSum (partsAt built.flatten tableID partitionID) = elementSum primitives
        (batches.flatMap fun batch =>
          batchElements primitives schemas batch tableID partitionID : List Bytes) ∧
    ((∃ part ∈ built.flatten, part.tableID = tableID ∧ part.partitionID = partitionID) ↔
      (batches.flatMap fun batch =>
        batchElements primitives schemas batch tableID partitionID) ≠ []) := by
  induction paired with
  | nil => simp [partsAt, elementSum]
  | @cons batch parts batches built from_batch _ inductionHypothesis =>
    obtain ⟨head, tail⟩ := forall_mem_cons.mp named
    obtain ⟨ownSum, ownMentioned⟩ := hashSum_partsAt_builtFrom from_batch head tableID partitionID
    obtain ⟨restSum, restMentioned⟩ := inductionHypothesis tail
    constructor
    · rw [flatten_cons, partsAt_append, hashSum_append, ownSum,
        restSum, flatMap_cons, ← Multiset.coe_add, elementSum_add]
    · rw [flatMap_cons, ne_eq, append_eq_nil_iff, not_and_or,
        ← ne_eq, ← ne_eq, ← restMentioned, ← ownMentioned]
      simp [flatten_cons, or_and_right, exists_or]

/-- The parts of a block hold the elements of its rows. -/
theorem hashSum_partsAt_affected
    {prev next : SafeSnapshotManifest}
    {result : ExecutionResult}
    {block : Block α}
    (trace : Applied primitives executor prev block.job block.batches next result)
    (tableID partitionID : Bytes) :
    hashSum (partsAt trace.state.affected tableID partitionID) = elementSum primitives
        (blockElements primitives executor tableID partitionID block) ∧
    ((∃ part ∈ trace.state.affected, part.tableID = tableID ∧ part.partitionID = partitionID) ↔
      blockElements primitives executor tableID partitionID block ≠ 0) := by
  obtain ⟨built, paired, collected⟩ := trace.block.built
  have keyed := schemasForJob_keyed trace.schemasResolved
  have named :
      ∀ batch ∈ block.batches, (targetSchema trace.schemas batch).tableID = batch.targetTableID :=
    fun batch member => targetSchema_tableID keyed (trace.inputs.batches batch member).1
  have unfolded : blockElements primitives executor tableID partitionID block =
      (block.batches.flatMap fun batch =>
        batchElements primitives trace.schemas batch tableID partitionID : List Bytes) := by
    simp [blockElements, trace.schemasResolved]
  rw [unfolded, collected, ne_eq, Multiset.coe_eq_zero]
  exact hashSum_partsAt_flatten paired named tableID partitionID

end Elements

section Runs

variable {α : Type} {primitives : Primitives α} {executor : Executor α}

variable (primitives)

/-- The manifest after one block. -/
def applyBlock (executor : Executor α) (manifest : SafeSnapshotManifest) (block : Block α) :
    Except ApplyRefusal SafeSnapshotManifest :=
  (executor.applyRows primitives manifest block.job block.batches).map Prod.fst

/-- The manifest after a run of consecutive blocks. -/
def runBlocks (executor : Executor α) (blocks : List (Block α)) (prev : SafeSnapshotManifest) :
    Except ApplyRefusal SafeSnapshotManifest :=
  blocks.foldlM (applyBlock primitives executor) prev

/-- A manifest whose roots are those of its parts. -/
structure Consistent (manifest : SafeSnapshotManifest) : Prop where
  placed : manifest.Placed
  sound : manifest.LedgerSound
  dataRoot : manifest.dataRoot = manifest.computeDataRoot primitives.sum256

/-- A manifest that differs from another by added row elements only. -/
structure GrownBy (prev next : SafeSnapshotManifest) (elements : Bytes → Bytes → Multiset Bytes) :
    Prop where
  consistent : Consistent primitives next
  tables : ∀ tableID, tableID ∈ next.tableIDs ↔ tableID ∈ prev.tableIDs
  declares : ∀ tableID partitionID, next.Declares tableID partitionID ↔
      prev.Declares tableID partitionID ∨ elements tableID partitionID ≠ 0
  accumulated : ∀ tableID partitionID, next.accumulated tableID partitionID =
      prev.accumulated tableID partitionID + elementSum primitives (elements tableID partitionID)

variable {primitives}
  {prev next : SafeSnapshotManifest} {block : Block α} {result : ExecutionResult}

theorem applyBlock_ok (applied : applyBlock primitives executor prev block = .ok next) :
    ∃ result, Nonempty (Applied primitives executor prev block.job block.batches next result) := by
  unfold applyBlock at applied
  cases outcome : executor.applyRows primitives prev block.job block.batches with
  | error reason => simp [outcome, Except.map] at applied
  | ok returned =>
    obtain ⟨reached, result⟩ := returned
    simp only [outcome, Except.map, Except.ok.injEq] at applied
    subst applied
    exact ⟨result, applyRows_ok outcome⟩

variable {batches : List (StatementRows α)}

theorem Applied.consistent_next (trace : Applied primitives executor prev job batches next result) :
    Consistent primitives next := by
  refine ⟨trace.effect.placed, trace.effect.sound, ?_⟩
  have sealed : ∀ root tables,
      next = nextManifest primitives prev job.blockSeq root tables →
      next.dataRoot = next.computeDataRoot primitives.sum256 := by
    rintro root tables rfl
    exact seal_dataRoot _
  exact sealed _ _ trace.nextEq

theorem Applied.consistent_prev (trace : Applied primitives executor prev job batches next result) :
    Consistent primitives prev :=
  ⟨trace.inputs.placed, trace.prev_sound, trace.inputs.valid.dataRootEq⟩

/-- A block of statements adds its row elements. -/
theorem applyBlock_grownBy (rowsOnly : block.job.tableSetTransition = none)
    (applied : applyBlock primitives executor prev block = .ok next) :
    GrownBy primitives prev next fun tableID partitionID =>
      blockElements primitives executor tableID partitionID block := by
  obtain ⟨result, ⟨trace⟩⟩ := applyBlock_ok applied
  have effect := trace.effect
  have noRetires : block.job.retiredIDs = [] := by
    simp [ReplayJob.retiredIDs, rowsOnly]
  have noAdds : block.job.addedIDs = [] := by
    simp [ReplayJob.addedIDs, rowsOnly]
  refine ⟨trace.consistent_next, ?_, ?_, ?_⟩
  · intro tableID
    rw [effect.tables, noRetires, noAdds]
    simp
  · intro tableID partitionID
    rw [effect.declares, noRetires, (hashSum_partsAt_affected trace tableID partitionID).2]
    simp
  · intro tableID partitionID
    rw [effect.accumulated, noRetires, (hashSum_partsAt_affected trace tableID partitionID).1]
    simp

theorem GrownBy.trans
    {first second third : SafeSnapshotManifest} {before after : Bytes → Bytes → Multiset Bytes}
    (early : GrownBy primitives first second before)
    (late : GrownBy primitives second third after) :
    GrownBy primitives first third fun tableID partitionID =>
      before tableID partitionID + after tableID partitionID where
  consistent := late.consistent
  tables := fun tableID => (late.tables tableID).trans (early.tables tableID)
  declares := by
    intro tableID partitionID
    have empty : before tableID partitionID + after tableID partitionID = 0 ↔
        before tableID partitionID = 0 ∧ after tableID partitionID = 0 := by
      rw [← Multiset.card_eq_zero, Multiset.card_add,
        Nat.add_eq_zero_iff, Multiset.card_eq_zero, Multiset.card_eq_zero]
    rw [late.declares, early.declares, or_assoc, ne_eq, ne_eq, ne_eq, empty, not_and_or]
  accumulated := by
    intro tableID partitionID
    rw [late.accumulated, early.accumulated, elementSum_add, add_assoc]

/-- A run of blocks adds the row elements of all its blocks. -/
theorem runBlocks_grownBy {blocks : List (Block α)} (consistent : Consistent primitives prev)
    (rowsOnly : ∀ block ∈ blocks, block.job.tableSetTransition = none)
    (ran : runBlocks primitives executor blocks prev = .ok next) :
    GrownBy primitives prev next (addedElements primitives executor blocks) := by
  refine foldlM_processed (fun processed state =>
      GrownBy primitives prev state (addedElements primitives executor processed))
    ?_ ran ?_
  · intro processed block before after member stepped grown
    have step := applyBlock_grownBy (rowsOnly block member) stepped
    have both := grown.trans step
    have sums : addedElements primitives executor (processed ++ [block]) =
        fun tableID partitionID =>
          addedElements primitives executor processed tableID partitionID +
            blockElements primitives executor tableID partitionID
              block := by
      funext tableID partitionID
      simp [addedElements]
    rw [sums]
    exact both
  · exact ⟨consistent, fun _ => Iff.rfl, by simp [addedElements],
      by simp [addedElements, elementSum]⟩

variable {manifest : SafeSnapshotManifest}

/-- The commitments of a consistent manifest are given by its content. -/
theorem Consistent.mem_commitments_iff (consistent : Consistent primitives manifest)
    {commitment : PartitionCommitment} :
    commitment ∈ manifest.commitments ↔
      manifest.Declares commitment.tableID commitment.partitionID ∧ commitment.root =
          lthashHex (manifest.accumulated commitment.tableID commitment.partitionID) := by
  constructor
  · intro member
    exact ⟨⟨commitment, member, rfl, rfl⟩, consistent.sound.root_eq consistent.placed member⟩
  rintro ⟨⟨listed, member, sameTable, samePartition⟩, root⟩
  have listedRoot := consistent.sound.root_eq consistent.placed member
  have same : listed = commitment := by
    cases listed
    cases commitment
    simp_all
  rw [← same]
  exact member

theorem GrownBy.sameContent
    {prev : SafeSnapshotManifest} {elements : Bytes → Bytes → Multiset Bytes}
    (leftGrown : GrownBy primitives prev left elements)
    (rightGrown : GrownBy primitives prev right elements) :
    SameContent left right := by
  constructor
  · intro tableID
    rw [leftGrown.tables, rightGrown.tables]
  · intro commitment
    rw [leftGrown.consistent.mem_commitments_iff,
      rightGrown.consistent.mem_commitments_iff, leftGrown.declares,
      rightGrown.declares, leftGrown.accumulated, rightGrown.accumulated]

theorem Consistent.dataRoot_eq
    (leftConsistent : Consistent primitives left) (rightConsistent : Consistent primitives right)
    (same : SameContent left right) :
    left.dataRoot = right.dataRoot := by
  rw [leftConsistent.dataRoot, rightConsistent.dataRoot, computeDataRoot, computeDataRoot,
    dataJson_eq_of_sameContent leftConsistent.placed rightConsistent.placed same]

/-- The root that a manifest lists for a partition of a table. -/
def SafeSnapshotManifest.partitionRoot
    (manifest : SafeSnapshotManifest) (tableID partitionID : Bytes) :
    Option Bytes :=
  (manifest.commitments.find? fun commitment =>
    commitment.tableID == tableID && commitment.partitionID == partitionID).map
    root

theorem SafeSnapshotManifest.Placed.partitionRoot_eq_some_iff (placed : manifest.Placed)
    {tableID partitionID root : Bytes} :
    manifest.partitionRoot tableID partitionID = some root ↔
      { tableID := tableID, partitionID := partitionID, root := root } ∈
        manifest.commitments := by
  rw [partitionRoot, Option.map_eq_some_iff]
  constructor
  · rintro ⟨commitment, found, rfl⟩
    have named := find?_some found
    simp only [Bool.and_eq_true, beq_iff_eq] at named
    obtain ⟨rfl, rfl⟩ := named
    exact mem_of_find?_eq_some found
  · intro member
    have present : (manifest.commitments.find? fun commitment =>
        commitment.tableID == tableID && commitment.partitionID == partitionID).isSome := by
      rw [find?_isSome]
      exact ⟨_, member, by simp⟩
    obtain ⟨commitment, found⟩ := Option.isSome_iff_exists.mp present
    refine ⟨commitment, found, ?_⟩
    have named := find?_some found
    simp only [Bool.and_eq_true, beq_iff_eq] at named
    have same := inj_on_of_nodup_map placed.commitments_nodup (mem_of_find?_eq_some found) member
        (by rw [named.1, named.2])
    rw [same]

theorem consistent_of_run
    {rest : List (Block α)} (ran : runBlocks primitives executor (block :: rest) prev = .ok next) :
    Consistent primitives prev := by
  rw [runBlocks, foldlM_cons, bind_eq_ok_iff] at ran
  obtain ⟨_, applied, _⟩ := ran
  obtain ⟨_, ⟨trace⟩⟩ := applyBlock_ok applied
  exact trace.consistent_prev

/--
The data state is content-addressed.  Two runs of blocks from one manifest
that add the same multiset of row elements to every partition of every table
reach the same data root and the same partition roots, whatever the order of
the rows and however they are cut into statements and blocks.
-/
theorem data_content_addressed
    (primitives : Primitives α)
    (executor : Executor α)
    (prev left right : SafeSnapshotManifest)
    (leftBlocks rightBlocks : List (Block α))
    (rowsOnly : ∀ block ∈ leftBlocks ++ rightBlocks, block.job.tableSetTransition = none)
    (leftRun : runBlocks primitives executor leftBlocks prev = .ok left)
    (rightRun : runBlocks primitives executor rightBlocks prev = .ok right)
    (sameElements : ∀ tableID partitionID,
        addedElements primitives executor leftBlocks tableID partitionID =
          addedElements primitives executor rightBlocks tableID partitionID) :
    left.dataRoot = right.dataRoot ∧
    ∀ tableID partitionID,
      left.partitionRoot tableID partitionID = right.partitionRoot tableID partitionID := by
  have leftRows : ∀ block ∈ leftBlocks, block.job.tableSetTransition = none :=
    fun block member => rowsOnly block (mem_append_left _ member)
  have rightRows : ∀ block ∈ rightBlocks, block.job.tableSetTransition = none :=
    fun block member => rowsOnly block (mem_append_right _ member)
  have agree : Consistent primitives prev →
      left.dataRoot = right.dataRoot ∧
      ∀ tableID partitionID,
        left.partitionRoot tableID partitionID = right.partitionRoot tableID partitionID := by
    intro consistent
    have leftGrown := runBlocks_grownBy consistent leftRows leftRun
    have rightGrown := runBlocks_grownBy consistent rightRows rightRun
    have elements : addedElements primitives executor rightBlocks =
        addedElements primitives executor leftBlocks := by
      funext tableID partitionID
      exact (sameElements tableID partitionID).symm
    rw [elements] at rightGrown
    have same := leftGrown.sameContent rightGrown
    refine ⟨leftGrown.consistent.dataRoot_eq rightGrown.consistent same, ?_⟩
    intro tableID partitionID
    apply Option.ext
    intro root
    rw [leftGrown.consistent.placed.partitionRoot_eq_some_iff,
      rightGrown.consistent.placed.partitionRoot_eq_some_iff, same.commitments]
  -- any block that was applied has checked the manifest they start from
  cases leftBlocks with
  | cons block rest => exact agree (consistent_of_run leftRun)
  | nil =>
    cases rightBlocks with
    | cons block rest => exact agree (consistent_of_run rightRun)
    | nil =>
      cases leftRun
      cases rightRun
      exact ⟨rfl, fun _ _ => rfl⟩

theorem applyBlock_eq_ok
    (applied : executor.applyRows primitives prev block.job block.batches = .ok (next, result)) :
    applyBlock primitives executor prev block = .ok next := by
  rw [applyBlock, applied]
  rfl

/-- Rows of the one table add the same elements in one block or in two. -/
theorem eventsElements_append
    (joined first second : UInt64) (firstRows secondRows : List (Row Bytes))
    (tableID partitionID : Bytes) :
    blockElements flatPrimitives eventsExecutor tableID partitionID
        ⟨eventsBlock joined, [eventsInsert 1 (firstRows ++ secondRows)]⟩ =
      blockElements flatPrimitives eventsExecutor tableID partitionID
          ⟨eventsBlock second, [eventsInsert 1 firstRows]⟩ +
        blockElements flatPrimitives eventsExecutor tableID partitionID
          ⟨eventsBlock first, [eventsInsert 1 secondRows]⟩ := by
  have resolved : ∀ blockSeq, eventsExecutor.schemasForJob flatPrimitives
      (eventsBlock blockSeq) = .ok eventsExecutor.tables := by
    intro blockSeq
    rfl
  simp only [blockElements, resolved, flatMap_cons, flatMap_nil,
    append_nil, batchElements, eventsInsert]
  by_cases own : ascii "events" = tableID
  · simp [own, rowElements, targetSchema]
  · simp [own]

/-- Two rows in one block. -/
def oneCut : List (Block Bytes) :=
  [⟨eventsBlock 1, [eventsInsert 1 [eventsRow 7, eventsRow 8]]⟩]

/-- The same rows in two blocks, the other way round. -/
def twoCuts : List (Block Bytes) :=
  [⟨eventsBlock 1, [eventsInsert 1 [eventsRow 8]]⟩,
    ⟨eventsBlock 2, [eventsInsert 1 [eventsRow 7]]⟩]

theorem cuts_rowsOnly : ∀ block ∈ oneCut ++ twoCuts, block.job.tableSetTransition = none := by
  intro block member
  simp only [oneCut, twoCuts, cons_append, nil_append, mem_cons, not_mem_nil, or_false] at member
  rcases member with rfl | rfl | rfl <;> rfl

theorem addedElements_cuts (tableID partitionID : Bytes) :
    addedElements flatPrimitives eventsExecutor oneCut tableID partitionID =
      addedElements flatPrimitives eventsExecutor twoCuts tableID partitionID := by
  rw [addedElements, addedElements]
  simp only [oneCut, twoCuts, map_cons, map_nil, sum_cons, sum_nil, add_zero]
  rw [add_comm]
  exact eventsElements_append 1 1 2 [eventsRow 7] [eventsRow 8] tableID partitionID

/-- Both runs end, each with a chain of its own. -/
theorem runBlocks_cuts : ∃ left right,
    runBlocks flatPrimitives eventsExecutor oneCut (eventsGenesis 0) = .ok left ∧
      runBlocks flatPrimitives eventsExecutor twoCuts (eventsGenesis 0) = .ok right ∧
      (Chained flatPrimitives eventsExecutor left ∧ left.safeBlockSeq = 1) ∧
      Chained flatPrimitives eventsExecutor right ∧ right.safeBlockSeq = 2 := by
  have genesis := eventsGenesis_chained 0
  obtain ⟨left, leftResult, leftApplied⟩ : ∃ next result,
      eventsExecutor.applyRows flatPrimitives (eventsGenesis 0)
          (eventsBlock 1) [eventsInsert 1 [eventsRow 7, eventsRow 8]] =
        .ok (next, result) := by
    refine eventsBlock_accepted genesis rfl rfl rfl ?_ ?_
    · intro batch member
      rw [mem_singleton.mp member]
      rfl
    · intro batch member
      rw [mem_singleton.mp member]
      exact ⟨_, _, rfl, rfl⟩
  obtain ⟨leftTrace⟩ := applyRows_ok leftApplied
  obtain ⟨middle, middleResult, middleApplied⟩ := eventsRow_accepted genesis 1 8
  obtain ⟨middleTrace⟩ := applyRows_ok middleApplied
  have middleChained := middleTrace.chained_next genesis (by decide)
  obtain ⟨right, rightResult, rightApplied⟩ := eventsRow_accepted middleChained 2 7
  obtain ⟨rightTrace⟩ := applyRows_ok rightApplied
  have middleSeq : middle.safeBlockSeq = 1 := congrArg safeBlockSeq middleTrace.nextEq
  refine ⟨left, right, ?_, ?_, ?_, ?_⟩
  · exact bind_eq_ok_iff.mpr ⟨left, applyBlock_eq_ok leftApplied, rfl⟩
  · exact bind_eq_ok_iff.mpr ⟨middle, applyBlock_eq_ok middleApplied,
      bind_eq_ok_iff.mpr ⟨right, applyBlock_eq_ok rightApplied, rfl⟩⟩
  · exact ⟨leftTrace.chained_next genesis (by decide), congrArg safeBlockSeq leftTrace.nextEq⟩
  · refine ⟨?_, congrArg safeBlockSeq rightTrace.nextEq⟩
    apply rightTrace.chained_next middleChained
    rw [middleSeq]
    decide

/-- The same rows, once in one block and once in two. -/
theorem data_content_addressed_events : ∃ left right,
    runBlocks flatPrimitives eventsExecutor oneCut (eventsGenesis 0) = .ok left ∧
      runBlocks flatPrimitives eventsExecutor twoCuts (eventsGenesis 0) = .ok right ∧
      left.dataRoot = right.dataRoot := by
  obtain ⟨left, right, leftRun, rightRun, -, -⟩ := runBlocks_cuts
  refine ⟨left, right, leftRun, rightRun, ?_⟩
  exact (data_content_addressed flatPrimitives eventsExecutor _ left right
    _ _ cuts_rowsOnly leftRun rightRun addedElements_cuts).1

end Runs

end HouseGate.Replay
