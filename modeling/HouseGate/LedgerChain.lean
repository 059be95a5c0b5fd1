import Mathlib.Logic.Relation
import HouseGate.PayloadBlock
import HouseGate.ProfileTransition

namespace HouseGate.Replay

open AsciiText DecimalText KeyedSort CheckedSteps MapFolds List SafeSnapshotManifest Executor
open TableManifest

/-!
# Chains of manifests

A chain starts at the empty manifest of an executor and grows by applied
blocks and by executor profile transitions.  One invariant says all that the
executor checks of a previous manifest; each of the two steps keeps it as long
as the block number does not wrap around.
-/

variable {α : Type} {primitives : Primitives α} {executor : Executor α}
  {blockSeq : UInt64} {batches : List (StatementRows α)} {schemas : Map TableSchema}
variable {part : PartManifestEntry}

section Names

/-- A part name tells the partition, the block and the statement. -/
theorem partNameOf_inj
    {leftID rightID : Bytes} {leftBlock leftStatement rightBlock rightStatement : UInt64}
    (same :
      partNameOf leftID leftBlock leftStatement = partNameOf rightID rightBlock rightStatement) :
    leftID = rightID ∧ leftBlock = rightBlock ∧ leftStatement = rightStatement := by
  have block : ascii "-b" = [45, 98] := by
    decide
  have statement : ascii "-s" = [45, 115] := by
    decide
  have noHyphen : ∀ mark : UInt8, mark ≠ 45 → ∀ number,
      (45 : UInt8) ∉ mark :: formatUint number := by
    intro mark other number
    rw [mem_cons, not_or]
    exact ⟨other.symm, notMem_formatUint (by decide) number⟩
  simp only [partNameOf, block, statement, append_assoc, cons_append, nil_append] at same
  have regrouped : ∀ (id : Bytes) (outer inner : Nat),
      id ++ 45 :: 98 :: (formatUint outer ++ 45 :: 115 :: formatUint inner) =
        (id ++ 45 :: 98 :: formatUint outer) ++ 45 :: (115 :: formatUint inner) := by
    intro id outer inner
    simp
  rw [regrouped, regrouped] at same
  obtain ⟨heads, statements⟩ :=
    append_separator_inj (noHyphen 115 (by decide) _) (noHyphen 115 (by decide) _) same
  obtain ⟨ids, blocks⟩ :=
    append_separator_inj (noHyphen 98 (by decide) _) (noHyphen 98 (by decide) _) heads
  have sameBlock := formatUint_injective (cons.inj blocks).2
  have sameStatement := formatUint_injective (cons.inj statements).2
  exact ⟨ids, UInt64.toNat_inj.mp sameBlock, UInt64.toNat_inj.mp sameStatement⟩

/-- The statements of an accepted block are numbered upwards. -/
theorem statementSeqs_ascending {seen : List Bytes} {lastSeq : UInt64}
    (valid : validateBlockStatements seen lastSeq batches = .ok ()) :
    (∀ batch ∈ batches, lastSeq < batch.statementSeq) ∧
    batches.Pairwise fun first second => first.statementSeq < second.statementSeq := by
  induction batches generalizing seen lastSeq with
  | nil => exact ⟨forall_mem_nil _, Pairwise.nil⟩
  | cons batch rest inductionHypothesis =>
    simp only [validateBlockStatements, guard_eq_ok_iff, UInt64.not_le] at valid
    obtain ⟨_, _, later, restValid⟩ := valid
    obtain ⟨above, ascending⟩ := inductionHypothesis restValid
    refine ⟨forall_mem_cons.mpr ⟨later, ?_⟩, pairwise_cons.mpr ⟨above, ascending⟩⟩
    intro other member
    exact UInt64.lt_trans later (above other member)

theorem BuiltFrom.name
    {batch : StatementRows α}
    {parts : List PartManifestEntry}
    (from_batch : BuiltFrom primitives schemas blockSeq batch parts)
    (member : part ∈ parts) :
    part.partName = partNameOf part.partitionID blockSeq batch.statementSeq := by
  obtain ⟨source, _, built⟩ := from_batch
  obtain ⟨totals, made, _⟩ := (buildParts_ok built).2.built part member
  rw [made]
  rfl

/-- No two parts of one block have the same name. -/
theorem BlockAppended.names_nodup {start : LedgerParts} {state : AppendState}
    (block : BlockAppended primitives schemas blockSeq batches start state)
    (valid : validateBlockStatements [] 0 batches = .ok ()) :
    (state.affected.map PartManifestEntry.partName).Nodup := by
  obtain ⟨parts, paired, collected⟩ := block.built
  rw [collected]
  have ascending := (statementSeqs_ascending valid).2
  clear block collected valid
  induction paired with
  | nil => exact nodup_nil
  | @cons batch own rest others from_batch paired inductionHypothesis =>
    rw [pairwise_cons] at ascending
    rw [flatten_cons, map_append, nodup_append]
    refine ⟨?_, inductionHypothesis ascending.2, ?_⟩
    · -- within a statement the partitions tell the parts apart
      obtain ⟨source, _, built⟩ := id from_batch
      have distinct := (buildParts_ok built).2.distinct
      rw [Nodup, pairwise_map] at distinct ⊢
      refine distinct.imp_of_mem ?_
      intro first second firstListed secondListed different same
      rw [from_batch.name firstListed, from_batch.name secondListed] at same
      exact different (partNameOf_inj same).1
    · intro name first otherName second same
      obtain ⟨part, listed, rfl⟩ := mem_map.mp first
      obtain ⟨other, otherListed, rfl⟩ := mem_map.mp second
      obtain ⟨laterParts, laterListed, inLater⟩ := mem_flatten.mp otherListed
      obtain ⟨later, laterBatch, from_later⟩ := exists_paired paired.flip laterListed
      rw [from_batch.name listed, BuiltFrom.name from_later inLater] at same
      have sameSeq := (partNameOf_inj same).2.2
      exact absurd (ascending.1 later laterBatch) (sameSeq ▸ UInt64.lt_irrefl _)

end Names

section SchemaRoots

/-- A schema root depends on the hash of every table only. -/
theorem schemaRootFromHashes_congr
    {left right : Map Bytes} (same : ∀ tableID, left.lookup tableID = right.lookup tableID) :
    schemaRootFromHashes primitives left = schemaRootFromHashes primitives right := by
  have keys : left.keys.Perm right.keys := by
    rw [perm_ext_iff_of_nodup left.keys_nodup right.keys_nodup]
    intro tableID
    rw [← AList.mem_keys, ← AList.mem_keys, mem_iff_lookup, mem_iff_lookup, same]
  have sorted : sortTexts left.keys = sortTexts right.keys := by
    apply sortBy_eq_of_perm _ keys
    exact left.keys_nodup.map textKey_injective
  have lookups : left.lookup = right.lookup := funext same
  rw [schemaRootFromHashes, schemaRootFromHashes, sorted, lookups]

variable {prev next : SafeSnapshotManifest} {job : ReplayJob}
variable {result : ExecutionResult}
variable (trace : Applied primitives executor prev job batches next result)

include trace

theorem Applied.schemaHash_next {table : TableManifest} (member : table ∈ next.tables) :
    trace.ledger.schemaHashes.lookup table.tableID = some table.schemaHash := by
  obtain ⟨tableID, byPartition, found, rfl⟩ := (trace.rebuiltFrom.tables table).mp member
  have inState : tableID ∈ trace.state.parts := mem_iff_lookup.mpr ⟨byPartition, found⟩
  have inLedger := (trace.block.appended.tables tableID).mp inState
  obtain ⟨hash, hashed⟩ := mem_iff_lookup.mp ((trace.openedLedger.hashed tableID).mpr inLedger)
  change trace.ledger.schemaHashes.lookup tableID =
    some ((trace.ledger.schemaHashes.lookup tableID).getD [])
  rw [hashed]
  rfl

theorem Applied.schemaHashesOf_next (tableID : Bytes) :
    (schemaHashesOf next.tables).lookup tableID = trace.ledger.schemaHashes.lookup tableID := by
  have placed := trace.effect.placed
  apply Option.ext
  intro hash
  rw [schemaHashesOf_lookup placed]
  constructor
  · rintro ⟨table, member, rfl, rfl⟩
    exact trace.schemaHash_next member
  intro hashed
  have listed : tableID ∈ next.tableIDs := by
    rw [trace.rebuiltFrom.mem_tableIDs, trace.block.appended.tables,
      ← trace.openedLedger.hashed, mem_iff_lookup]
    exact ⟨hash, hashed⟩
  obtain ⟨table, member, rfl⟩ := mem_map.mp listed
  rw [trace.schemaHash_next member] at hashed
  exact ⟨table, member, rfl, Option.some.inj hashed⟩

theorem Applied.schemaRoot_next :
    next.schemaRoot = schemaRootFromHashes primitives (schemaHashesOf next.tables) := by
  have given : next.schemaRoot = trace.schemaRoot :=
    congrArg SafeSnapshotManifest.schemaRoot trace.nextEq
  rw [given, schemaRootFromHashes_congr trace.schemaHashesOf_next]
  rcases (openLedger_ok trace.inputs.placed trace.prev_sound
      trace.transitionChecked trace.opened).2 with
    ⟨_, kept, hashes⟩ | ⟨_, _, _, derived⟩
  · rw [kept, hashes, trace.inputs.schemaRoot]
  · exact derived

end SchemaRoots

variable {manifest : SafeSnapshotManifest}

section Invariant

/-- What a chain keeps of every table, with the blocks of its part names. -/
structure TableChained (safeBlockSeq : UInt64) (table : TableManifest) : Prop where
  placed : table.Placed
  sound : table.LedgerSound
  schemaHash : table.schemaHash ≠ []
  named : ∀ part ∈ table.activeParts, ∃ blockSeq statementSeq,
      blockSeq ≤ safeBlockSeq ∧ part.partName = partNameOf part.partitionID blockSeq statementSeq
  namesNodup : (table.activeParts.map PartManifestEntry.partName).Nodup

/-- What a chain keeps of every manifest. -/
structure Chained
    (primitives : Primitives α)
    (executor : Executor α)
    (manifest : SafeSnapshotManifest) :
    Prop where
  valid : manifest.Valid primitives.sum256
  tablesNodup : manifest.tableIDs.Nodup
  tables : ∀ table ∈ manifest.tables, TableChained manifest.safeBlockSeq table
  schemaRoot :
    manifest.schemaRoot = schemaRootFromHashes primitives (schemaHashesOf manifest.tables)
  static : executor.dynamic = false → (∀ tableID, tableID ∈ manifest.tableIDs ↔
      tableID ∈ executor.tables) ∧
      ∀ table ∈ manifest.tables, ∀ schema, executor.tables.lookup table.tableID = some schema →
          table.schemaHash = tableSchemaHash primitives executor.networkID schema

theorem Chained.placed (chained : Chained primitives executor manifest) : manifest.Placed where
  tables := fun table member => (chained.tables table member).placed
  tablesNodup := chained.tablesNodup

theorem Chained.sound (chained : Chained primitives executor manifest) : manifest.LedgerSound :=
  fun table member => (chained.tables table member).sound

end Invariant

variable {schema : TableSchema}

section Genesis

theorem Executor.mem_sortedTables {schema : TableSchema} :
    schema ∈ executor.sortedTables ↔ executor.tables.lookup schema.tableID = some schema := by
  simp only [sortedTables, sortedTableIDs, sortTexts, mem_filterMap, mem_sortBy]
  constructor
  · rintro ⟨tableID, _, found⟩
    rw [executor.keyed tableID schema found]
    exact found
  · intro found
    exact ⟨schema.tableID, AList.mem_keys.mp (mem_iff_lookup.mpr ⟨schema, found⟩), found⟩

/-- The configured schemas are listed once each, by their table ids. -/
theorem Executor.sortedTables_tableIDs :
    executor.sortedTables.map TableSchema.tableID = executor.sortedTableIDs := by
  apply map_filterMap_eq_self
  intro tableID listed
  have configured : tableID ∈ executor.tables := AList.mem_keys.mpr (mem_sortBy.mp listed)
  obtain ⟨schema, found⟩ := mem_iff_lookup.mp configured
  exact ⟨schema, found, executor.keyed tableID schema found⟩

theorem Executor.mem_sortedTableIDs {tableID : Bytes} :
    tableID ∈ executor.sortedTableIDs ↔ tableID ∈ executor.tables := by
  rw [sortedTableIDs, sortTexts, mem_sortBy, ← AList.mem_keys]

theorem Executor.sortedTableIDs_nodup : executor.sortedTableIDs.Nodup :=
  (sortBy_perm textKey executor.tables.keys).nodup_iff.mpr executor.tables.keys_nodup

theorem Executor.sortedTables_ordered (executor : Executor α) :
    executor.sortedTables.Pairwise fun left right =>
      textKey left.tableID ≤ textKey right.tableID := by
  have ids := sortBy_pairwise textKey executor.tables.keys
  change executor.sortedTableIDs.Pairwise _ at ids
  rw [← sortedTables_tableIDs, pairwise_map] at ids
  exact ids

/-- A configured table before its first block. -/
def genesisTable (primitives : Primitives α) (executor : Executor α) (schema : TableSchema) :
    TableManifest :=
  { tableID := schema.tableID
    schemaHash := tableSchemaHash primitives executor.networkID schema
    partitionRoots := []
    activeParts := [] }

variable {safeBlockSeq : UInt64} {schemaSnapshotID executorProfileID : Bytes}

theorem genesisSnapshot_tables :
    (executor.genesisSnapshot primitives safeBlockSeq schemaSnapshotID executorProfileID).tables =
      executor.sortedTables.map (genesisTable primitives executor) := by
  have ordered : (executor.sortedTables.map (genesisTable primitives executor)).Pairwise
      fun left right => left.key ≤ right.key := by
    rw [pairwise_map]
    exact executor.sortedTables_ordered
  rw [genesisSnapshot, seal_tables, normalized_tables]
  change (sortBy key (executor.sortedTables.map
      (genesisTable primitives executor))).map TableManifest.normalized = _
  rw [sortBy_eq_self ordered, map_map]
  apply map_congr_left
  intro schema _
  rfl

theorem genesisTables_tableIDs (primitives : Primitives α) (executor : Executor α) :
    (executor.sortedTables.map (genesisTable primitives executor)).map
        tableID = executor.sortedTableIDs := by
  rw [map_map, ← sortedTables_tableIDs]
  rfl

theorem genesisSnapshot_tableIDs :
    (executor.genesisSnapshot primitives safeBlockSeq schemaSnapshotID executorProfileID).tableIDs =
      executor.sortedTableIDs := by
  rw [tableIDs, genesisSnapshot_tables]
  exact genesisTables_tableIDs primitives executor

theorem mem_genesisSnapshot_tables {table : TableManifest} :
    table ∈ (executor.genesisSnapshot primitives safeBlockSeq
        schemaSnapshotID executorProfileID).tables ↔
      ∃ schema, executor.tables.lookup schema.tableID = some schema ∧
        genesisTable primitives executor schema = table := by
  rw [genesisSnapshot_tables, mem_map]
  simp [mem_sortedTables]

theorem genesisTable_chained (named : schema.tableID ≠ []) :
    TableChained safeBlockSeq (genesisTable primitives executor schema) where
  placed := {
    tableID := named
    partitions := forall_mem_nil _
    partitionsNodup := nodup_nil
    parts := forall_mem_nil _ }
  sound := {
    decodes := forall_mem_nil _
    roots := forall_mem_nil _
    declared := forall_mem_nil _ }
  schemaHash := digestBytes_ne_nil _ _
  named := forall_mem_nil _
  namesNodup := nodup_nil

theorem schemaHashesOf_genesis (member : schema ∈ executor.sortedTables) :
    (schemaHashesOf (executor.sortedTables.map
        (genesisTable primitives executor))).lookup schema.tableID =
      some (tableSchemaHash primitives executor.networkID schema) := by
  refine (lookup_insertAll_eq_some_iff ?_).mpr
    ⟨genesisTable primitives executor schema, mem_map_of_mem member, rfl, rfl⟩
  rw [genesisTables_tableIDs]
  exact sortedTableIDs_nodup

/-- The schema root of the configuration is that of its tables. -/
theorem schemaRoot_sortedTables : schemaRoot primitives executor.networkID executor.sortedTables =
    schemaRootFromHashes primitives (schemaHashesOf (executor.sortedTables.map
        (genesisTable primitives executor))) := by
  let hashes := schemaHashesOf (executor.sortedTables.map (genesisTable primitives executor))
  have keys : hashes.keys.Perm executor.tables.keys := by
    rw [perm_ext_iff_of_nodup hashes.keys_nodup executor.tables.keys_nodup]
    intro tableID
    rw [← AList.mem_keys, ← AList.mem_keys, ← mem_sortedTableIDs,
      ← genesisTables_tableIDs primitives]
    simp [hashes, schemaHashesOf, mem_insertAll]
  have sortedKeys : sortTexts hashes.keys = executor.sortedTableIDs :=
    sortBy_eq_of_perm (hashes.keys_nodup.map textKey_injective) keys
  have ordered : sortBy (fun schema : TableSchema => textKey schema.tableID) executor.sortedTables =
      executor.sortedTables :=
    sortBy_eq_self executor.sortedTables_ordered
  have collected : executor.sortedTableIDs.filterMap hashes.lookup =
      executor.sortedTables.map (tableSchemaHash primitives executor.networkID) := by
    rw [← sortedTables_tableIDs, filterMap_map, ← filterMap_eq_map]
    apply filterMap_congr
    intro schema member
    exact schemaHashesOf_genesis member
  rw [schemaRoot, ordered, schemaRootFromHashes, sortedKeys, collected]

/-- The empty manifest of an executor starts a chain. -/
theorem chained_genesis
    (schemaNamed : schemaSnapshotID ≠ []) (profileNamed : executorProfileID ≠ [])
    (tablesNamed : ∀ tableID ∈ executor.tables, tableID ≠ []) :
    Chained primitives executor (executor.genesisSnapshot primitives safeBlockSeq schemaSnapshotID
        executorProfileID) where
  valid := Identified.valid_seal {
    schemaSnapshotID := schemaNamed
    schemaRoot := digestBytes_ne_nil _ _
    executorProfileID := profileNamed
    frontiers := rfl }
  tablesNodup := by
    rw [genesisSnapshot_tableIDs]
    exact sortedTableIDs_nodup
  tables := by
    intro table member
    obtain ⟨schema, found, rfl⟩ := mem_genesisSnapshot_tables.mp member
    exact genesisTable_chained (tablesNamed _ (mem_iff_lookup.mpr ⟨schema, found⟩))
  schemaRoot := by
    rw [genesisSnapshot_tables]
    exact schemaRoot_sortedTables
  static := by
    intro _
    constructor
    · intro tableID
      rw [genesisSnapshot_tableIDs, mem_sortedTableIDs]
    · intro table member schema found
      obtain ⟨own, configured, rfl⟩ := mem_genesisSnapshot_tables.mp member
      cases configured.symm.trans found
      rfl

end Genesis

section Steps

variable {prev next : SafeSnapshotManifest} {job : ReplayJob}
variable {result : ExecutionResult}
variable (trace : Applied primitives executor prev job batches next result)

include trace

theorem Applied.affected_name (member : part ∈ trace.state.affected) :
    ∃ statementSeq, part.partName = partNameOf part.partitionID job.blockSeq statementSeq := by
  obtain ⟨batch, _, totals, made, _⟩ := trace.block.affected_part member
  refine ⟨batch.statementSeq, ?_⟩
  rw [made]
  rfl

omit trace in
theorem Chained.named (chained : Chained primitives executor manifest)
    (member : part ∈ manifest.parts) :
    ∃ blockSeq statementSeq, blockSeq ≤ manifest.safeBlockSeq ∧
      part.partName = partNameOf part.partitionID blockSeq statementSeq := by
  obtain ⟨table, listed, inTable⟩ := mem_flatMap.mp member
  exact (chained.tables table listed).named part inTable

omit trace in
theorem Chained.names_nodup (chained : Chained primitives executor manifest) (tableID : Bytes) :
    ((manifest.parts.filter fun part => part.tableID == tableID).map
      PartManifestEntry.partName).Nodup := by
  by_cases listed : tableID ∈ manifest.tableIDs
  · obtain ⟨table, member, rfl⟩ := mem_map.mp listed
    rw [chained.placed.parts_filter member]
    exact (chained.tables table member).namesNodup
  · rw [chained.placed.parts_filter_of_unlisted listed]
    exact nodup_nil

variable (chained : Chained primitives executor prev)

include chained

theorem Applied.named_next (later : prev.safeBlockSeq < job.blockSeq) (member : part ∈ next.parts) :
    ∃ blockSeq statementSeq, blockSeq ≤ job.blockSeq ∧
      part.partName = partNameOf part.partitionID blockSeq statementSeq := by
  rcases mem_append.mp (trace.effect.parts_perm.mem_iff.mp member) with kept | added
  · obtain ⟨blockSeq, statementSeq, below, name⟩ := chained.named (mem_filter.mp kept).1
    exact ⟨blockSeq, statementSeq, UInt64.le_trans below (UInt64.le_of_lt later), name⟩
  · obtain ⟨statementSeq, name⟩ := trace.affected_name added
    exact ⟨job.blockSeq, statementSeq, UInt64.le_refl _, name⟩

/-- The names of a table stay distinct when a block adds to it. -/
theorem Applied.names_nodup (later : prev.safeBlockSeq < job.blockSeq) {table : TableManifest}
    (member : table ∈ next.tables) : (table.activeParts.map PartManifestEntry.partName).Nodup := by
  have permuted := trace.effect.parts_perm.filter fun part => part.tableID == table.tableID
  rw [← trace.effect.placed.parts_filter member, (permuted.map _).nodup_iff, filter_append,
    map_append, nodup_append]
  refine ⟨?_, ?_, ?_⟩
  · exact (chained.names_nodup table.tableID).sublist ((filter_sublist.filter _).map _)
  · exact (trace.block.names_nodup trace.statementsValid).sublist (filter_sublist.map _)
  -- an older name carries an older block number
  intro name old newName new same
  obtain ⟨part, oldPart, rfl⟩ := mem_map.mp old
  obtain ⟨added, newPart, rfl⟩ := mem_map.mp new
  obtain ⟨block, statement, below, oldName⟩ :=
    chained.named (mem_filter.mp (mem_filter.mp oldPart).1).1
  obtain ⟨addedStatement, addedName⟩ := trace.affected_name (mem_filter.mp newPart).1
  rw [oldName, addedName] at same
  obtain ⟨_, sameBlock, _⟩ := partNameOf_inj same
  rw [sameBlock] at below
  exact UInt64.not_lt.mpr below later

theorem Applied.tableChained_next (later : prev.safeBlockSeq < job.blockSeq)
    {table : TableManifest} (member : table ∈ next.tables) : TableChained job.blockSeq table where
  placed := trace.effect.placed.tables table member
  sound := trace.effect.sound table member
  schemaHash := by
    rcases trace.openedLedger.hashes table.tableID table.schemaHash
        (trace.schemaHash_next member) with nonempty | ⟨own, listed, same⟩
    · exact nonempty
    · rw [← same]
      exact (chained.tables own listed).schemaHash
  named := by
    intro part inTable
    exact trace.named_next chained later (mem_flatMap.mpr ⟨table, member, inTable⟩)
  namesNodup := trace.names_nodup chained later member

omit chained in
theorem Applied.valid_next (valid : prev.Valid primitives.sum256) :
    next.Valid primitives.sum256 := by
  have rooted : trace.schemaRoot ≠ [] := by
    have given : next.schemaRoot = trace.schemaRoot :=
      congrArg SafeSnapshotManifest.schemaRoot trace.nextEq
    rw [← given, trace.schemaRoot_next]
    exact digestBytes_ne_nil _ _
  have transported : ∀ manifest, next = manifest → manifest.Valid primitives.sum256 →
      next.Valid primitives.sum256 := by
    rintro _ rfl sealed
    exact sealed
  apply transported _ trace.nextEq
  exact Identified.valid_seal {
    schemaSnapshotID := valid.schemaSnapshotID
    schemaRoot := rooted
    executorProfileID := valid.executorProfileID
    frontiers := rfl }

omit chained in
omit trace in
/-- A static executor applies no job that changes the table set. -/
theorem rowsOnly_of_static (static : executor.dynamic = false)
    (resolved : executor.schemasForJob primitives job = .ok schemas) :
    job.tableSetTransition = none ∧ job.tableSchemas = [] ∧ schemas = executor.tables := by
  simp only [schemasForJob, static, if_true, guard_eq_ok_iff,
    not_or, ne_eq, not_not, Except.ok.injEq] at resolved
  exact ⟨resolved.1.1, resolved.1.2, resolved.2.symm⟩

/-- A block that comes later than its base continues the chain. -/
theorem Applied.chained_next (later : prev.safeBlockSeq < job.blockSeq) :
    Chained primitives executor next where
  valid := trace.valid_next chained.valid
  tablesNodup := trace.effect.placed.tablesNodup
  tables := by
    intro table member
    have sameSeq : next.safeBlockSeq = job.blockSeq :=
      congrArg safeBlockSeq trace.nextEq
    rw [sameSeq]
    exact trace.tableChained_next chained later member
  schemaRoot := trace.schemaRoot_next
  static := by
    intro static
    obtain ⟨sameTables, hashes⟩ := chained.static static
    obtain ⟨noTransition, _, _⟩ := rowsOnly_of_static static trace.schemasResolved
    have noRetires : job.retiredIDs = [] := by
      simp [ReplayJob.retiredIDs, noTransition]
    have noAdds : job.addedIDs = [] := by
      simp [ReplayJob.addedIDs, noTransition]
    constructor
    · intro tableID
      rw [trace.effect.tables, noRetires, noAdds, ← sameTables]
      simp
    intro table member schema found
    have kept := trace.schemaHash_next member
    rcases (openLedger_ok trace.inputs.placed trace.prev_sound
        trace.transitionChecked trace.opened).2 with
      ⟨_, _, sameHashes⟩ | ⟨transition, some, _⟩
    · rw [sameHashes, schemaHashesOf_lookup chained.placed] at kept
      obtain ⟨own, listed, sameID, sameHash⟩ := kept
      rw [← sameHash]
      exact hashes own listed schema (sameID ▸ found)
    · rw [noTransition] at some
      cases some

omit chained

/-- Every row of a block is in an active part of its table. -/
theorem Applied.exists_part
    {batch : StatementRows α}
    {source : RowSource α}
    {row : Row α}
    (member : batch ∈ batches)
    (supplied : batch.rows = some source)
    (inRows : row ∈ source.rows) :
    ∃ table ∈ next.tables, table.activeParts ≠ [] := by
  obtain ⟨built, paired, collected⟩ := trace.block.built
  obtain ⟨parts, listed, own, ownSupplied, made⟩ := exists_paired paired member
  cases ownSupplied.symm.trans supplied
  obtain ⟨part, inParts, partition⟩ :=
    mem_map.mp (((buildParts_ok made).2.partitions row.partitionID).mpr ⟨row, inRows, rfl⟩)
  have affected : part ∈ trace.state.affected := by
    rw [collected]
    exact mem_flatten.mpr ⟨parts, listed, inParts⟩
  obtain ⟨table, tableListed, inTable⟩ :=
    mem_flatMap.mp (trace.effect.parts_perm.mem_iff.mpr (mem_append_right _ affected))
  exact ⟨table, tableListed, ne_nil_of_mem inTable⟩

end Steps

section Profiles

variable {table other : TableManifest}

section SameTable

variable (same : table.withStorageRefs [] = other.withStorageRefs [])

include same

/-- A part of one table has its counterpart in the other. -/
theorem exists_part_of_same (member : part ∈ other.activeParts) : ∃ own ∈ table.activeParts,
    own.tableID = part.tableID ∧ own.partitionID = part.partitionID ∧
    own.partName = part.partName ∧ own.partRowLtHash = part.partRowLtHash := by
  have listed : part.withStorageRefs [] ∈ (other.withStorageRefs []).activeParts :=
    mem_map_of_mem member
  rw [← same] at listed
  obtain ⟨own, inTable, equal⟩ := mem_map.mp listed
  simp only [PartManifestEntry.withStorageRefs, PartManifestEntry.mk.injEq] at equal
  obtain ⟨tableID, partitionID, partName, _, partRowLtHash, _⟩ := equal
  exact ⟨own, inTable, tableID, partitionID, partName, partRowLtHash⟩

theorem map_activeParts_of_same {γ : Type} {field : PartManifestEntry → γ}
    (ignores : ∀ part, field (part.withStorageRefs []) = field part) :
    table.activeParts.map field = other.activeParts.map field := by
  have parts := congrArg (fun table => table.activeParts.map field) same
  simpa [withStorageRefs, Function.comp_def, ignores] using parts

theorem hashSum_partsIn_of_same (partitionID : Bytes) :
    hashSum (table.partsIn partitionID) = hashSum (other.partsIn partitionID) := by
  have forgets : ∀ listed : TableManifest,
      hashSum ((listed.withStorageRefs []).partsIn partitionID) =
        hashSum (listed.partsIn partitionID) := by
    intro listed
    have samePart : partHash ∘ PartManifestEntry.withStorageRefs [] = partHash :=
      rfl
    have sameFilter : (fun part : PartManifestEntry => part.partitionID == partitionID) ∘
        PartManifestEntry.withStorageRefs [] =
          fun part => part.partitionID == partitionID :=
      rfl
    rw [partsIn, withStorageRefs, filter_map, sameFilter, hashSum, map_map, samePart]
    rfl
  rw [← forgets table, same, forgets other]

theorem fields_of_same : table.tableID = other.tableID ∧
    table.schemaHash = other.schemaHash ∧ table.partitionRoots = other.partitionRoots := by
  simp only [TableManifest.withStorageRefs, TableManifest.mk.injEq] at same
  exact ⟨same.1, same.2.1, same.2.2.1⟩

theorem TableManifest.Placed.of_same (placed : table.Placed) : other.Placed := by
  obtain ⟨tableID, _, partitionRoots⟩ := fields_of_same same
  constructor
  case tableID =>
    rw [← tableID]
    exact placed.tableID
  case partitions =>
    rw [← partitionRoots, ← tableID]
    exact placed.partitions
  case partitionsNodup =>
    rw [← partitionRoots]
    exact placed.partitionsNodup
  case parts =>
    intro part member
    obtain ⟨own, listed, ownTable, ownPartition, ownName, _⟩ := exists_part_of_same same member
    rw [← ownTable, ← ownPartition, ← ownName, ← tableID]
    exact placed.parts own listed

theorem TableManifest.LedgerSound.of_same (sound : table.LedgerSound) : other.LedgerSound := by
  obtain ⟨_, _, partitionRoots⟩ := fields_of_same same
  constructor
  case decodes =>
    intro part member
    obtain ⟨own, listed, _, _, _, ownHash⟩ := exists_part_of_same same member
    rw [← ownHash]
    exact sound.decodes own listed
  case roots =>
    intro commitment listed
    rw [← hashSum_partsIn_of_same same]
    exact sound.roots commitment (partitionRoots ▸ listed)
  case declared =>
    intro part member
    obtain ⟨own, listed, _, ownPartition, _⟩ := exists_part_of_same same member
    rw [← ownPartition, ← partitionRoots]
    exact sound.declared own listed

/-- Nothing that a chain keeps of a table is in the storage references. -/
theorem TableChained.of_same
    {before after : UInt64}
    (chained : TableChained before table)
    (later : before ≤ after) :
    TableChained after other where
  placed := chained.placed.of_same same
  sound := chained.sound.of_same same
  schemaHash := by
    rw [← (fields_of_same same).2.1]
    exact chained.schemaHash
  named := by
    intro part member
    obtain ⟨own, listed, _, ownPartition, ownName, _⟩ := exists_part_of_same same member
    obtain ⟨blockSeq, statementSeq, below, name⟩ := chained.named own listed
    rw [← ownName, ← ownPartition]
    exact ⟨blockSeq, statementSeq, UInt64.le_trans below later, name⟩
  namesNodup := by
    rw [← map_activeParts_of_same same (fun _ => rfl)]
    exact chained.namesNodup

end SameTable

theorem schemaHashesOf_withStorageRefs (tables : List TableManifest) :
    schemaHashesOf (tables.map (withStorageRefs [])) = schemaHashesOf tables := by
  rw [schemaHashesOf, insertAll, foldl_map]
  rfl

theorem tableIDs_withStorageRefs (tables : List TableManifest) :
    (tables.map (withStorageRefs [])).map tableID = tables.map tableID := by
  rw [map_map]
  rfl

variable {prev next : SafeSnapshotManifest}

/-- The block number that has no successor. -/
def lastBlockSeq : UInt64 := 18446744073709551615

theorem lt_add_one_of_ne_last {seq : UInt64} (notLast : seq ≠ lastBlockSeq) : seq < seq + 1 := by
  have small : seq.toNat ≠ 18446744073709551615 := by
    intro equal
    exact notLast (UInt64.toNat_inj.mp equal)
  have bound := seq.toNat_lt
  rw [UInt64.lt_iff_toNat_lt, UInt64.toNat_add]
  have one : (1 : UInt64).toNat = 1 := rfl
  omega

variable (step : ProfileStep primitives.sum256 prev next)

include step

theorem ProfileStep.exists_table {table : TableManifest} (member : table ∈ next.tables) :
    ∃ own ∈ prev.tables, own.withStorageRefs [] = table.withStorageRefs [] := by
  have listed : table.withStorageRefs [] ∈
      next.tables.map (withStorageRefs []) :=
    mem_map_of_mem member
  rw [step.tables] at listed
  exact mem_map.mp listed

theorem ProfileStep.tableIDs : next.tableIDs = prev.tableIDs := by
  rw [SafeSnapshotManifest.tableIDs, ← tableIDs_withStorageRefs, step.tables,
    tableIDs_withStorageRefs, SafeSnapshotManifest.tableIDs]

/-- A profile transition continues the chain if the block number does. -/
theorem ProfileStep.chained_next (chained : Chained primitives executor prev)
    (notLast : prev.safeBlockSeq ≠ lastBlockSeq) : Chained primitives executor next where
  valid := step.nextValid
  tablesNodup := by
    rw [step.tableIDs]
    exact chained.tablesNodup
  tables := by
    intro table member
    obtain ⟨own, listed, same⟩ := step.exists_table member
    refine (chained.tables own listed).of_same same ?_
    rw [step.advanced]
    exact UInt64.le_of_lt (lt_add_one_of_ne_last notLast)
  schemaRoot := by
    rw [step.schemaRoot, chained.schemaRoot,
      ← schemaHashesOf_withStorageRefs next.tables, step.tables,
      schemaHashesOf_withStorageRefs]
  static := by
    intro static
    obtain ⟨sameTables, hashes⟩ := chained.static static
    constructor
    · rw [step.tableIDs]
      exact sameTables
    intro table member schema found
    obtain ⟨own, listed, same⟩ := step.exists_table member
    obtain ⟨tableID, schemaHash, _⟩ := fields_of_same same
    rw [← schemaHash]
    exact hashes own listed schema (tableID ▸ found)

end Profiles

variable {job : ReplayJob}

section Acceptance

variable {carried targeted : List Bytes} {table : TableManifest}

/-- A schema that stands for a committed table. -/
def Describes (primitives : Primitives α) (executor : Executor α) (schema : TableSchema)
    (table : TableManifest) :
    Prop :=
  schema.tableID = table.tableID ∧
    table.schemaHash = tableSchemaHash primitives executor.networkID schema

theorem checkTableSchema_dynamic
    (dynamic : executor.dynamic = true) (hashed : table.schemaHash ≠ []) :
    executor.checkTableSchema primitives schemas carried targeted table = .ok () ↔
      ∀ schema, schemas.lookup table.tableID = some schema →
        table.tableID ∈ carried ∨ table.tableID ∈ targeted →
          Describes primitives executor schema table := by
  unfold checkTableSchema Describes
  cases found : schemas.lookup table.tableID with
  | none => simp [dynamic, hashed]
  | some schema =>
    by_cases inCarried : table.tableID ∈ carried
    · simp only [inCarried, or_true, if_true, guard_eq_ok_iff, ne_eq,
        not_not, and_true, true_or, forall_const, Option.some.injEq,
        forall_eq']
    · simp only [dynamic, inCarried, Bool.true_eq_false, or_false,
        if_false, guard_eq_ok_iff, false_or, Option.some.injEq,
        forall_eq', and_true]
      tauto

/-- What a manifest of a chain leaves to the job that is applied to it. -/
structure JobFits
    (primitives : Primitives α)
    (executor : Executor α)
    (manifest : SafeSnapshotManifest)
    (batches : List (StatementRows α))
    (schemas : Map TableSchema)
    (carried : List Bytes) :
    Prop where
  described : ∀ table ∈ manifest.tables, ∀ schema, schemas.lookup table.tableID = some schema →
      table.tableID ∈ carried ∨ table.tableID ∈ batches.map StatementRows.targetTableID →
      Describes primitives executor schema table
  supplied : ∀ batch ∈ batches, schemas.lookup batch.targetTableID ≠ none ∧ batch.rows.isSome

variable (chained : Chained primitives executor manifest)

include chained

theorem Chained.static_described (static : executor.dynamic = false)
    (member : table ∈ manifest.tables) :
    ∃ schema, executor.tables.lookup table.tableID = some schema ∧
      Describes primitives executor schema table := by
  obtain ⟨sameTables, hashes⟩ := chained.static static
  have configured := (sameTables table.tableID).mp (mem_map_of_mem member)
  obtain ⟨schema, found⟩ := mem_iff_lookup.mp configured
  exact ⟨schema, found, executor.keyed _ schema found, hashes table member schema found⟩

theorem Chained.static_size (static : executor.dynamic = false) :
    manifest.tables.length = executor.tables.keys.length := by
  have permuted : manifest.tableIDs.Perm executor.tables.keys := by
    rw [perm_ext_iff_of_nodup chained.tablesNodup executor.tables.keys_nodup]
    intro tableID
    rw [(chained.static static).1, AList.mem_keys]
  have lengths := permuted.length_eq
  rw [tableIDs, length_map] at lengths
  exact lengths

variable (resolved : executor.schemasForJob primitives job = .ok schemas)

include resolved

/-- A manifest of a chain is accepted by every job that fits it. -/
theorem Chained.acceptable :
    executor.validateAppendInputs primitives manifest batches schemas
        (carriedTableIDs job) = .ok () ↔
      JobFits primitives executor manifest batches schemas (carriedTableIDs job) := by
  rw [validateAppendInputs_ok_iff]
  constructor
  · intro inputs
    refine ⟨?_, inputs.batches⟩
    intro table member schema found used
    cases kind : executor.dynamic with
    | false =>
      obtain ⟨_, _, rfl⟩ := rowsOnly_of_static kind resolved
      obtain ⟨own, ownFound, described⟩ := chained.static_described kind member
      cases ownFound.symm.trans found
      exact described
    | true =>
      exact (checkTableSchema_dynamic kind (chained.tables table member).schemaHash).mp
          (inputs.tables table member).schema schema found used
  · intro fits
    have accepted : ∀ table ∈ manifest.tables, executor.checkTableSchema primitives schemas
        (carriedTableIDs job)
        (batches.map StatementRows.targetTableID) table = .ok () := by
      intro table member
      cases kind : executor.dynamic with
      | false =>
        obtain ⟨_, _, rfl⟩ := rowsOnly_of_static kind resolved
        obtain ⟨schema, found, described⟩ := chained.static_described kind member
        simp [checkTableSchema, found, described.1, ← described.2]
      | true =>
        exact (checkTableSchema_dynamic kind
          (chained.tables table member).schemaHash).mpr (fits.described table member)
    exact {
      valid := chained.valid
      staticSize := chained.static_size
      tables := fun table member => {
        placed := (chained.tables table member).placed
        namesNodup := (chained.tables table member).namesNodup
        schema := accepted table member }
      tablesNodup := chained.tablesNodup
      schemaRoot := chained.schemaRoot
      batches := fits.supplied }

/-- A fitting block of readable statements is applied to the chain. -/
theorem Chained.accepts (rowsOnly : job.tableSetTransition = none)
    (statementsValid : validateBlockStatements [] 0 batches = .ok ())
    (fits : JobFits primitives executor manifest batches schemas (carriedTableIDs job))
    (built : ∀ batch ∈ batches, ∃ parts, BuiltFrom primitives schemas job.blockSeq batch parts)
    (listed : ∀ batch ∈ batches, (targetSchema schemas batch).tableID ∈ manifest.tableIDs) :
    ∃ next result, executor.applyRows primitives manifest job batches = .ok (next, result) :=
  applyRows_accepts chained.sound statementsValid rowsOnly resolved
    (validateAppendInputs_ok_iff.mp ((chained.acceptable resolved).mpr fits))
    built listed

end Acceptance

section Runs

/-- One step of a chain: an applied block or an accepted profile child. -/
inductive ChainStep (primitives : Primitives α) (executor : Executor α) :
    SafeSnapshotManifest → SafeSnapshotManifest → Prop where
  | block {prev next : SafeSnapshotManifest}
      {job : ReplayJob} {batches : List (StatementRows α)} {result : ExecutionResult}
      (later : prev.safeBlockSeq < job.blockSeq)
      (applied : executor.applyRows primitives prev job batches = .ok (next, result)) :
      ChainStep primitives executor prev next
  | profile {prev next : SafeSnapshotManifest} {transition : ExecutorProfileTransition}
      (accepted : validateExecutorProfileTransition primitives.sum256 prev next
          transition = .ok ()) :
      ChainStep primitives executor prev next

/-- A finite run, with no step from the block number without successor. -/
def ChainRun (primitives : Primitives α) (executor : Executor α) :
    SafeSnapshotManifest → SafeSnapshotManifest → Prop :=
  Relation.ReflTransGen fun prev next =>
    ChainStep primitives executor prev next ∧ prev.safeBlockSeq ≠ lastBlockSeq

variable {genesis prev next : SafeSnapshotManifest}

theorem ChainStep.chained_next
    (step : ChainStep primitives executor prev next) (notLast : prev.safeBlockSeq ≠ lastBlockSeq)
    (chained : Chained primitives executor prev) :
    Chained primitives executor next := by
  cases step with
  | block later applied =>
    obtain ⟨trace⟩ := applyRows_ok applied
    exact trace.chained_next chained later
  | profile accepted => exact (profileStep_of_accepted accepted).chained_next chained notLast

theorem ChainRun.chained (run : ChainRun primitives executor genesis manifest)
    (chained : Chained primitives executor genesis) :
    Chained primitives executor manifest := by
  induction run with
  | refl => exact chained
  | tail _ step inductionHypothesis => exact step.1.chained_next step.2 inductionHypothesis

theorem ChainStep.advances
    (step : ChainStep primitives executor prev next)
    (notLast : prev.safeBlockSeq ≠ lastBlockSeq) :
    prev.safeBlockSeq < next.safeBlockSeq := by
  cases step with
  | @block job _ _ later applied =>
    obtain ⟨trace⟩ := applyRows_ok applied
    have sameSeq : next.safeBlockSeq = job.blockSeq :=
      congrArg safeBlockSeq trace.nextEq
    rw [sameSeq]
    exact later
  | profile accepted =>
    rw [(profileStep_of_accepted accepted).advanced]
    exact lt_add_one_of_ne_last notLast

end Runs

section Example

/-- One table of one text column. -/
def eventsSchema : TableSchema :=
  { tableID := ascii "events"
    partitionBy := []
    columns := [{ name := ascii "body", type := ascii "String" }] }

/--
A digest that keeps its input, with element hashes that forget theirs.  The
JSON of a schema is the id of its table.
-/
def flatPrimitives : Primitives Bytes :=
  { sum256 := id
    elementHash := fun _ => 0
    encodeValue := fun _ value => some (kindString :: value)
    decodeTableSchema := fun json => some { eventsSchema with tableID := json }
    validateTableSchemaColumns := fun _ => true }

/-- A row of the one table, in its only partition. -/
def eventsRow (body : UInt8) : Row Bytes :=
  { rowID := replicate 32 body
    values := [[body]]
    partitionID := ascii "all"
    rawBytes := 1 }

/-- An executor of the one table, with one row for each byte of a payload. -/
def eventsExecutor : Executor Bytes :=
  newWithMaterializer (ascii "net") (some fun _ entry => some (entry.payload.map eventsRow))
    [eventsSchema]

/-- The empty manifest of the one table. -/
def eventsGenesis (safeBlockSeq : UInt64) : SafeSnapshotManifest :=
  eventsExecutor.genesisSnapshot flatPrimitives safeBlockSeq (ascii "schema-1") (ascii "profile-1")

/-- A statement that inserts the given rows. -/
def eventsInsert (statementSeq : UInt64) (rows : List (Row Bytes)) : StatementRows Bytes :=
  { statementID := formatUint statementSeq.toNat
    statementSeq := statementSeq
    targetTableID := ascii "events"
    rows := some { rows := rows, ending := .endOfStream } }

/-- A block whose rows are given apart from it. -/
def eventsBlock (blockSeq : UInt64) : ReplayJob :=
  { blockSeq := blockSeq
    prevSafeSnapshotID := []
    prevStateRoot := []
    schemaSnapshotID := ascii "schema-1"
    executorProfileID := ascii "profile-1"
    sourceClaimRoot := ascii "0x"
    statements := []
    tableSetTransition := none
    tableSchemas := [] }

theorem eventsExecutor_tables : ∀ tableID ∈ eventsExecutor.tables, tableID = ascii "events" := by
  intro tableID member
  have listed : tableID ∈ insertSchemas [eventsSchema] ∅ := member
  rw [insertSchemas, mem_insertAll] at listed
  rcases listed with absent | ⟨schema, own, rfl⟩
  · exact (AList.notMem_empty tableID absent).elim
  · rw [mem_singleton.mp own]
    rfl

theorem eventsGenesis_chained (safeBlockSeq : UInt64) :
    Chained flatPrimitives eventsExecutor (eventsGenesis safeBlockSeq) := by
  apply chained_genesis
  · decide
  · decide
  · intro tableID member
    rw [eventsExecutor_tables tableID member]
    decide

/-- Readable rows of the one table are applied to every chain of it. -/
theorem eventsBlock_accepted
    {job : ReplayJob}
    {batches : List (StatementRows Bytes)}
    (chained : Chained flatPrimitives eventsExecutor manifest)
    (rowsOnly : job.tableSetTransition = none)
    (uncarried : job.tableSchemas = [])
    (statementsValid : validateBlockStatements [] 0 batches = .ok ())
    (targets : ∀ batch ∈ batches, batch.targetTableID = ascii "events")
    (built : ∀ batch ∈ batches, ∃ parts,
        BuiltFrom flatPrimitives eventsExecutor.tables job.blockSeq batch parts) :
    ∃ next result,
      eventsExecutor.applyRows flatPrimitives manifest job batches = .ok (next, result) := by
  have resolved :
      eventsExecutor.schemasForJob flatPrimitives job = .ok eventsExecutor.tables := by
    simp [Executor.schemasForJob, eventsExecutor, newWithMaterializer, rowsOnly, uncarried]
  have configured : eventsExecutor.tables.lookup (ascii "events") = some eventsSchema := by
    rfl
  refine chained.accepts resolved rowsOnly statementsValid ?_ built ?_
  · constructor
    · intro table member schema found _
      obtain ⟨own, ownFound, described⟩ := chained.static_described rfl member
      cases ownFound.symm.trans found
      exact described
    · intro batch member
      obtain ⟨_, source, supplied, _⟩ := built batch member
      rw [targets batch member, configured, supplied]
      simp
  · intro batch member
    have target : targetSchema eventsExecutor.tables batch = eventsSchema := by
      rw [targetSchema, targets batch member, configured]
      rfl
    rw [target, (chained.static rfl).1]
    exact mem_iff_lookup.mpr ⟨eventsSchema, configured⟩

/-- A manifest with parts has children that differ in their hints. -/
theorem exists_changed_child
    {prev : SafeSnapshotManifest}
    {table : TableManifest}
    (valid : prev.Valid primitives.sum256)
    (sealed : prev.normalized = prev)
    (profile : prev.executorProfileID = ascii "profile-1")
    (member : table ∈ prev.tables)
    (active : table.activeParts ≠ []) :
    ∃ next transition, validateExecutorProfileTransition primitives.sum256 prev next
        transition = .ok () ∧
      next.tables ≠ prev.tables := by
  have accepted : ∀ storageRefs, validateExecutorProfileTransition primitives.sum256 prev
      (profileChild primitives.sum256 (ascii "profile-2") storageRefs prev)
      (profileRecord (ascii "net") prev
        (profileChild primitives.sum256 (ascii "profile-2") storageRefs prev)) = .ok () := by
    intro storageRefs
    apply profileChild_accepted _ _ storageRefs valid sealed
    · decide
    · decide
    · rw [profile]
      decide
  by_contra unchanged
  have kept : ∀ storageRefs, prev.tables.map (withStorageRefs storageRefs) = prev.tables := by
    intro storageRefs
    rw [← profileChild_tables primitives.sum256 (ascii "profile-2") storageRefs sealed]
    by_contra changed
    exact unchanged ⟨_, _, accepted storageRefs, changed⟩
  have tablesEqual := (kept []).trans (kept [[]]).symm
  have own := map_inj_left.mp tablesEqual table member
  cases parts : table.activeParts with
  | nil => exact active parts
  | cons part rest =>
    simp [withStorageRefs, PartManifestEntry.withStorageRefs, parts] at own

theorem Applied.sealed_next {prev next : SafeSnapshotManifest} {result : ExecutionResult}
    (trace : Applied primitives executor prev job batches next result) :
    next.normalized = next := by
  rw [trace.nextEq, nextManifest, seal_normalized]

def namelessSchema : TableSchema := { eventsSchema with tableID := [] }

/-- A table without a name, which no check of the configuration refuses. -/
def namelessExecutor : Executor Bytes := newWithMaterializer (ascii "net") none [namelessSchema]

/-- The block with one row that every chain of the one table accepts. -/
theorem eventsRow_accepted
    (chained : Chained flatPrimitives eventsExecutor manifest)
    (blockSeq : UInt64)
    (body : UInt8) :
    ∃ next result,
      eventsExecutor.applyRows flatPrimitives manifest
          (eventsBlock blockSeq) [eventsInsert 1 [eventsRow body]] =
        .ok (next, result) := by
  refine eventsBlock_accepted chained rfl rfl rfl ?_ ?_
  · intro batch member
    rw [mem_singleton.mp member]
    rfl
  · intro batch member
    rw [mem_singleton.mp member]
    exact ⟨_, _, rfl, rfl⟩

end Example

section Closure

/-- Every manifest of a chain can be the base of the next step. -/
theorem ledger_chain_closed
    (primitives : Primitives α)
    (executor : Executor α)
    (safeBlockSeq : UInt64)
    (schemaSnapshotID executorProfileID : Bytes)
    (manifest : SafeSnapshotManifest)
    (schemaNamed : schemaSnapshotID ≠ [])
    (profileNamed : executorProfileID ≠ [])
    (tablesNamed : ∀ tableID ∈ executor.tables, tableID ≠ [])
    (run : ChainRun primitives executor
        (executor.genesisSnapshot primitives safeBlockSeq schemaSnapshotID
          executorProfileID) manifest) :
    manifest.validate primitives.sum256 = .ok () ∧
    verifyLedger manifest = .ok () ∧
    (∀ job schemas batches, executor.schemasForJob primitives job = .ok schemas →
        (executor.validateAppendInputs primitives manifest batches schemas
            (carriedTableIDs job) = .ok () ↔
          JobFits primitives executor manifest batches schemas (carriedTableIDs job))) ∧
    (∀ table ∈ manifest.tables, (table.activeParts.map PartManifestEntry.partName).Nodup) ∧
    (∀ next, ChainStep primitives executor manifest next →
      manifest.safeBlockSeq ≠ lastBlockSeq → manifest.safeBlockSeq < next.safeBlockSeq) ∧
    (∀ next transition, validateExecutorProfileTransition primitives.sum256 manifest next
        transition = .ok () →
        next.tables.map (withStorageRefs []) = manifest.tables.map (withStorageRefs [])) := by
  have chained := run.chained (chained_genesis schemaNamed profileNamed tablesNamed)
  refine ⟨validate_ok_iff.mpr chained.valid, verifyLedger_ok_iff.mpr chained.sound, ?_, ?_, ?_, ?_⟩
  · intro job schemas batches resolved
    exact chained.acceptable resolved
  · intro table member
    exact (chained.tables table member).namesNodup
  · intro next step notLast
    exact step.advances notLast
  · intro next transition accepted
    exact (profileStep_of_accepted accepted).tables

/-- A block of one row and then a profile child of it. -/
theorem ledger_chain_closed_events : ∃ manifest,
    ChainRun flatPrimitives eventsExecutor (eventsGenesis 0) manifest ∧
    manifest.safeBlockSeq = 2 ∧
    manifest.validate flatPrimitives.sum256 = .ok () ∧ verifyLedger manifest = .ok () := by
  obtain ⟨first, result, applied⟩ := eventsRow_accepted (eventsGenesis_chained 0) 1 7
  obtain ⟨trace⟩ := applyRows_ok applied
  have firstSeq : first.safeBlockSeq = 1 := congrArg safeBlockSeq trace.nextEq
  have profile : first.executorProfileID = ascii "profile-1" :=
    congrArg executorProfileID trace.nextEq
  have accepted := profileChild_accepted (ascii "net") (ascii "profile-2") []
      (trace.valid_next (eventsGenesis_chained 0).valid) trace.sealed_next
      (by decide) (by decide) (by rw [profile]; decide)
  have run : ChainRun flatPrimitives eventsExecutor (eventsGenesis 0)
      (profileChild flatPrimitives.sum256 (ascii "profile-2") [] first) := by
    refine (Relation.ReflTransGen.single ⟨.block ?_ applied, ?_⟩).tail ⟨.profile accepted, ?_⟩
    · rw [firstSeq]
      decide
    · decide
    · decide
  obtain ⟨valid, verified, _⟩ :=
    ledger_chain_closed flatPrimitives eventsExecutor 0 (ascii "schema-1")
      (ascii "profile-1") _ (by decide) (by decide)
      (fun tableID member => by
        rw [eventsExecutor_tables tableID member]
        decide)
      run
  refine ⟨_, run, ?_, valid, verified⟩
  change first.safeBlockSeq + 1 = 2
  rw [firstSeq]
  rfl

/-- Hints may change, the number may wrap, and a base may lack its names. -/
theorem ledger_chain_open : (∃ prev next transition,
    ChainRun flatPrimitives eventsExecutor (eventsGenesis 0) prev ∧
    validateExecutorProfileTransition flatPrimitives.sum256 prev next transition = .ok () ∧
    next.tables ≠ prev.tables) ∧
    (∃ next transition, validateExecutorProfileTransition flatPrimitives.sum256
        (eventsGenesis lastBlockSeq) next transition = .ok () ∧
      next.safeBlockSeq = 0) ∧
    (eventsExecutor.genesisSnapshot flatPrimitives 0 []
      (ascii "profile-1")).validate flatPrimitives.sum256 ≠ .ok () ∧
    (∀ batches schemas carried, namelessExecutor.validateAppendInputs flatPrimitives
        (namelessExecutor.genesisSnapshot flatPrimitives 0 (ascii "schema-1") (ascii "profile-1"))
        batches schemas carried ≠ .ok ()) := by
  refine ⟨?_, ?_, ?_, ?_⟩
  · obtain ⟨first, result, applied⟩ := eventsRow_accepted (eventsGenesis_chained 0) 1 7
    obtain ⟨trace⟩ := applyRows_ok applied
    obtain ⟨table, member, active⟩ := trace.exists_part mem_cons_self rfl mem_cons_self
    obtain ⟨next, transition, accepted, changed⟩ :=
      exists_changed_child (trace.valid_next (eventsGenesis_chained 0).valid) trace.sealed_next
        (congrArg executorProfileID trace.nextEq)
        member active
    refine ⟨first, next, transition, ?_, accepted, changed⟩
    refine Relation.ReflTransGen.single ⟨.block ?_ applied, ?_⟩
    · decide
    · decide
  · refine ⟨_, _, profileChild_accepted (ascii "net") (ascii "profile-2") []
      (eventsGenesis_chained lastBlockSeq).valid
      (seal_normalized _) ?_ ?_ ?_, ?_⟩
    · decide
    · decide
    · decide
    · rfl
  · intro validated
    exact (validate_ok_iff.mp validated).schemaSnapshotID rfl
  · intro batches schemas carried passed
    have inputs := validateAppendInputs_ok_iff.mp passed
    have configured : namelessExecutor.tables.lookup namelessSchema.tableID = some namelessSchema :=
      rfl
    have nameless := inputs.tables (genesisTable flatPrimitives namelessExecutor namelessSchema)
        (mem_genesisSnapshot_tables.mpr ⟨namelessSchema, configured, rfl⟩)
    exact nameless.placed.tableID rfl

end Closure

end HouseGate.Replay
