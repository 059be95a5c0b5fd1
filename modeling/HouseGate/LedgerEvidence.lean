import HouseGate.LedgerContent

namespace HouseGate.Replay

open AsciiText DecimalText KeyedSort LtHash CheckedSteps MapFolds List ReplayTableSchema Executor

/-!
# The evidence of an applied block

A result lists the partitions that a block wrote to, with their new roots, and
the parts that it added.  Both lists name what they should, and everything else
is carried over from the previous manifest.  The roots are looked up under the
table and the partition joined by a zero byte; of the partitions that share a
joined name the last one is found, so the root is right exactly when that one
holds what the partition itself holds.
-/

variable {α : Type} {primitives : Primitives α} {executor : Executor α} {job : ReplayJob}
variable {prev next : SafeSnapshotManifest} {table : TableManifest}
variable {batches : List (StatementRows α)} {result : ExecutionResult}

section Transitions

variable {transition : ReplayTableSetTransition}
  (carries : job.tableSetTransition = some transition)

include carries

/-- What an accepted transition has done to the schema hashes. -/
theorem Applied.transitioned (trace : Applied primitives executor prev job batches next result) :
    transition.isCanonical = true ∧
    (∀ id ∈ transition.retires, id ∈ prev.tableIDs) ∧
    (∀ added ∈ transition.adds, added.tableID ∉ prev.tableIDs) ∧
    trace.ledger.schemaHashes = insertAll tableID (addedHash primitives executor trace.schemas)
        transition.adds (eraseAll transition.retires (schemaHashesOf prev.tables)) ∧
    trace.schemaRoot = transition.newSchemaRoot ∧
    trace.schemaRoot = schemaRootFromHashes primitives trace.ledger.schemaHashes := by
  have opened := trace.opened
  have checked := trace.transitionChecked
  simp only [checkTransition, carries, guard_eq_ok_iff, Bool.not_eq_false] at checked
  simp only [openLedger, carries] at opened
  obtain ⟨present, absent, ledgerEq, rooted⟩ :=
    (applyTableSetTransition_ok_iff checked.2.1).mp opened
  exact ⟨checked.2.1, fun id member => mem_ledgerPartsOf.mp (present id member),
    fun added member listed => absent added member (mem_ledgerPartsOf.mpr listed),
    congrArg LedgerState.schemaHashes ledgerEq, rooted⟩

theorem retiredIDs_eq : job.retiredIDs = transition.retires := by
  simp [ReplayJob.retiredIDs, carries]

end Transitions

section Carried

variable (trace : Applied primitives executor prev job batches next result)

include trace

/-- A table that is not retired keeps its schema hash. -/
theorem Applied.schemaHash_kept (member : table ∈ prev.tables)
    (kept : table.tableID ∉ job.retiredIDs) :
    trace.ledger.schemaHashes.lookup table.tableID = some table.schemaHash := by
  have placed := trace.inputs.placed
  have before := (schemaHashesOf_lookup placed).mpr ⟨table, member, rfl, rfl⟩
  cases transitionEq : job.tableSetTransition with
  | none =>
    have opened := trace.opened
    simp only [openLedger, transitionEq, Except.ok.injEq, Prod.mk.injEq] at opened
    rw [← opened.1]
    exact before
  | some transition =>
    obtain ⟨_, _, absent, hashes, _⟩ := trace.transitioned transitionEq
    have notAdded : table.tableID ∉ transition.adds.map tableID := by
      intro listed
      obtain ⟨added, inAdds, same⟩ := mem_map.mp listed
      exact absent added inAdds (same ▸ mem_map_of_mem member)
    rw [hashes, lookup_insertAll_of_notMem notAdded, lookup_eraseAll,
      if_neg (retiredIDs_eq transitionEq ▸ kept)]
    exact before

/-- A table that is not retired is there afterwards, under the same schema. -/
theorem Applied.exists_table (member : table ∈ prev.tables)
    (kept : table.tableID ∉ job.retiredIDs) :
    ∃ after ∈ next.tables, after.tableID = table.tableID ∧ after.schemaHash = table.schemaHash := by
  have listed : table.tableID ∈ next.tableIDs :=
    (trace.effect.tables table.tableID).mpr (.inl ⟨mem_map_of_mem member, kept⟩)
  obtain ⟨after, inNext, same⟩ := mem_map.mp listed
  have hashed := trace.schemaHash_next inNext
  rw [same, trace.schemaHash_kept member kept] at hashed
  exact ⟨after, inNext, same, (Option.some.inj hashed).symm⟩

end Carried

section Partitions

/-- Rows were sent to the partition of the table. -/
def Received (batches : List (StatementRows α)) (tableID partitionID : Bytes) : Prop :=
  ∃ batch ∈ batches, batch.targetTableID = tableID ∧
    ∃ source, batch.rows = some source ∧ ∃ row ∈ source.rows, row.partitionID = partitionID

/-- The partitions of the added parts are noted, each once. -/
structure Tracked (state : AppendState) : Prop where
  nodup : state.touched.Nodup
  mem : ∀ tableID partitionID, (tableID, partitionID) ∈ state.touched ↔
      ∃ part ∈ state.affected, part.tableID = tableID ∧ part.partitionID = partitionID

variable {before after : AppendState} {part : PartManifestEntry}

theorem Tracked.appendNewPart (tracked : Tracked before)
    (stepped : Replay.appendNewPart before part = .ok after) : Tracked after := by
  unfold Replay.appendNewPart at stepped
  cases found : before.parts.lookup part.tableID with
  | none => simp [found] at stepped
  | some byPartition =>
    simp only [found, Except.ok.injEq] at stepped
    subst stepped
    have grown : ∀ tableID partitionID, (∃ other ∈ before.affected ++ [part],
          other.tableID = tableID ∧ other.partitionID = partitionID) ↔
        (tableID, partitionID) ∈ before.touched ∨
          (part.tableID = tableID ∧ part.partitionID = partitionID) := by
      intro tableID partitionID
      simp [tracked.mem, or_and_right, exists_or]
    by_cases noted : (part.tableID, part.partitionID) ∈ before.touched
    · refine ⟨by simpa [noted] using tracked.nodup, ?_⟩
      intro tableID partitionID
      rw [grown]
      simp only [noted, if_true]
      constructor
      · exact .inl
      · rintro (listed | ⟨rfl, rfl⟩)
        · exact listed
        · exact noted
    · refine ⟨?_, ?_⟩
      · simp only [noted, if_false]
        exact nodup_append.mpr ⟨tracked.nodup, nodup_singleton _, by
          rintro pair listed _ last rfl
          exact noted (mem_singleton.mp last ▸ listed)⟩
      · intro tableID partitionID
        rw [grown]
        simp [noted, eq_comm]

theorem Tracked.appendStatement {schemas : Map TableSchema} {blockSeq : UInt64}
    {batch : StatementRows α} (tracked : Tracked before)
    (stepped : Replay.appendStatement primitives schemas blockSeq before batch = .ok after) :
    Tracked after := by
  unfold Replay.appendStatement at stepped
  cases supplied : batch.rows with
  | none => simp [supplied] at stepped
  | some source =>
    simp only [supplied, bind_eq_ok_iff] at stepped
    obtain ⟨parts, _, folded⟩ := stepped
    exact foldlM_processed (fun _ state => Tracked state)
      (fun _ _ _ _ _ step holds => holds.appendNewPart step) folded tracked

variable (trace : Applied primitives executor prev job batches next result)

include trace

theorem Applied.tracked : Tracked trace.state := foldlM_processed (fun _ state => Tracked state)
    (fun _ _ _ _ _ step holds => holds.appendStatement step) trace.appended
    ⟨nodup_nil, by simp⟩

/-- The partitions that received rows are those of the added parts. -/
theorem Applied.received_iff {tableID partitionID : Bytes} : Received batches tableID partitionID ↔
      ∃ part ∈ trace.state.affected, part.tableID = tableID ∧ part.partitionID = partitionID := by
  obtain ⟨built, paired, collected⟩ := trace.block.built
  have keyed := schemasForJob_keyed trace.schemasResolved
  have placed : ∀ batch ∈ batches, ∀ parts source,
      buildParts primitives (targetSchema trace.schemas batch) job.blockSeq batch.statementSeq
        source = .ok parts →
      ∀ part ∈ parts, part.tableID = batch.targetTableID := by
    intro batch member parts source made part inParts
    obtain ⟨totals, shape, _⟩ := (buildParts_ok made).2.built part inParts
    rw [shape]
    exact targetSchema_tableID keyed (trace.inputs.batches batch member).1
  rw [collected]
  constructor
  · rintro ⟨batch, member, rfl, source, supplied, rows⟩
    obtain ⟨parts, listed, own, ownSupplied, made⟩ := exists_paired paired member
    cases supplied.symm.trans ownSupplied
    obtain ⟨part, inParts, same⟩ :=
      mem_map.mp (((buildParts_ok made).2.partitions partitionID).mpr rows)
    exact ⟨part, mem_flatten.mpr ⟨parts, listed, inParts⟩,
      placed batch member parts source made part inParts, same⟩
  · rintro ⟨part, member, rfl, rfl⟩
    obtain ⟨parts, listed, inParts⟩ := mem_flatten.mp member
    obtain ⟨batch, inBlock, source, supplied, made⟩ := exists_paired paired.flip listed
    exact ⟨batch, inBlock, (placed batch inBlock parts source made part inParts).symm, source,
      supplied, ((buildParts_ok made).2.partitions part.partitionID).mp (mem_map_of_mem inParts)⟩

end Partitions

section Roots

variable {manifest : SafeSnapshotManifest} {commitment : PartitionCommitment}

/-- The text that the root of a partition is looked up under. -/
def joinedName (tableID partitionID : Bytes) : Bytes := tableID ++ [0] ++ partitionID

theorem partitionRootIndex_eq (placed : manifest.Placed) : partitionRootIndex manifest =
      insertAll (fun commitment => joinedName commitment.tableID commitment.partitionID)
        PartitionCommitment.root manifest.commitments ∅ := by
  rw [insertAll, SafeSnapshotManifest.commitments, foldl_flatMap]
  apply foldl_ext
  intro index table listed
  apply foldl_ext
  intro inner commitment inTable
  rw [((placed.tables table listed).partitions commitment inTable).1, joinedName]

/-- The partitions that are there once the block is applied. -/
def DeclaredAfter
    (prev : SafeSnapshotManifest)
    (job : ReplayJob)
    (batches : List (StatementRows α))
    (tableID partitionID : Bytes) :
    Prop :=
  (prev.Declares tableID partitionID ∧ tableID ∉ job.retiredIDs) ∨
    Received batches tableID partitionID

/-- The hashes of the rows that a partition holds then, added up. -/
def contentAfter
    (primitives : Primitives α)
    (executor : Executor α)
    (prev : SafeSnapshotManifest)
    (job : ReplayJob)
    (batches : List (StatementRows α))
    (tableID partitionID : Bytes) :
    Hash :=
  (if tableID ∈ job.retiredIDs then 0 else prev.accumulated tableID partitionID) +
    elementSum primitives (blockElements primitives executor tableID partitionID ⟨job, batches⟩)

/--
Of the partitions with the joined name of one that receives rows, the last one
in the order of the tables holds the same content, be it that very partition
or another one.
-/
def NamesTell
    (primitives : Primitives α)
    (executor : Executor α)
    (prev : SafeSnapshotManifest)
    (job : ReplayJob)
    (batches : List (StatementRows α)) :
    Prop :=
  ∀ tableID partitionID lastTable lastPartition,
    Received batches tableID partitionID →
    DeclaredAfter prev job batches lastTable lastPartition →
    joinedName lastTable lastPartition = joinedName tableID partitionID →
    (∀ otherTable otherPartition, DeclaredAfter prev job batches otherTable otherPartition →
      joinedName otherTable otherPartition = joinedName tableID partitionID →
      textKey otherTable ≤ textKey lastTable) →
    contentAfter primitives executor prev job batches lastTable lastPartition =
      contentAfter primitives executor prev job batches tableID partitionID

theorem joinedName_right_inj {tableID left right : Bytes} :
    joinedName tableID left = joinedName tableID right ↔ left = right := by
  rw [joinedName, joinedName, append_cancel_left_eq]

/-- A joined name has a last partition. -/
theorem exists_last_named
    (listed : commitment ∈ manifest.commitments) :
    ∃ last ∈ manifest.commitments,
      joinedName last.tableID last.partitionID =
        joinedName commitment.tableID commitment.partitionID ∧
      ∀ other ∈ manifest.commitments,
        joinedName other.tableID other.partitionID =
          joinedName commitment.tableID commitment.partitionID →
        textKey other.tableID ≤ textKey last.tableID := by
  let named := manifest.commitments.filter fun other =>
    joinedName other.tableID other.partitionID =
      joinedName commitment.tableID commitment.partitionID
  have nonempty : named.toFinset.Nonempty :=
    ⟨commitment, by simp [named, listed]⟩
  obtain ⟨last, inNamed, greatest⟩ :=
    Finset.exists_max_image named.toFinset (fun other => textKey other.tableID) nonempty
  simp only [named, mem_toFinset, mem_filter, decide_eq_true_eq] at inNamed greatest
  exact ⟨last, inNamed.1, inNamed.2, fun other otherListed same =>
    greatest other ⟨otherListed, same⟩⟩

variable (trace : Applied primitives executor prev job batches next result)

include trace

theorem Applied.partitionCommitmentsAfter : result.partitionCommitmentsAfter =
      affectedPartitionCommitments next (sortTouched trace.state.touched) :=
  congrArg ExecutionResult.partitionCommitmentsAfter trace.resultEq

theorem Applied.mem_sortTouched {tableID partitionID : Bytes} :
    (tableID, partitionID) ∈ sortTouched trace.state.touched ↔
      Received batches tableID partitionID := by
  rw [sortTouched, mem_sortBy, trace.tracked.mem, trace.received_iff]

theorem Applied.declaredAfter_iff {tableID partitionID : Bytes} :
    DeclaredAfter prev job batches tableID partitionID ↔ next.Declares tableID partitionID := by
  rw [DeclaredAfter, trace.effect.declares, trace.received_iff]

/-- A commitment of the next manifest is a partition with the root of its content. -/
theorem Applied.mem_commitments_next :
    commitment ∈ next.commitments ↔
      DeclaredAfter prev job batches commitment.tableID commitment.partitionID ∧
        commitment.root = lthashHex
          (contentAfter primitives executor prev job batches commitment.tableID
            commitment.partitionID) := by
  let block : Block α := ⟨job, batches⟩
  have added := (@hashSum_partsAt_affected _ primitives executor prev next result block trace
    commitment.tableID commitment.partitionID).1
  rw [trace.consistent_next.mem_commitments_iff, trace.declaredAfter_iff,
    trace.effect.accumulated, added, contentAfter]

/-- The commitments of a sealed manifest stand in the order of their tables, each once. -/
theorem Applied.commitments_ordered :
    next.commitments.Pairwise fun first second =>
      textKey first.tableID ≤ textKey second.tableID ∧
        (first.tableID, first.partitionID) ≠ (second.tableID, second.partitionID) := by
  have placed := trace.effect.placed
  apply Pairwise.and
  · rw [SafeSnapshotManifest.commitments, pairwise_flatMap]
    have ordered : next.tables.Pairwise fun first second => first.key ≤ second.key := by
      rw [← trace.sealed_next, SafeSnapshotManifest.normalized]
      exact sortBy_pairwise _ _
    constructor
    · intro table listed
      apply pairwise_of_forall_mem_list
      intro first inFirst second inSecond
      have firstID := ((placed.tables table listed).partitions first inFirst).1
      have secondID := ((placed.tables table listed).partitions second inSecond).1
      rw [firstID, secondID]
    · apply ordered.imp_of_mem
      intro table other listed otherListed below first inFirst second inSecond
      have firstID := ((placed.tables table listed).partitions first inFirst).1
      have secondID := ((placed.tables other otherListed).partitions second inSecond).1
      rw [firstID, secondID]
      exact below
  · exact pairwise_map.mp placed.commitments_nodup

/-- What is looked up under a joined name is the root of the last partition that has it. -/
theorem Applied.root_found
    (listed : commitment ∈ next.commitments)
    (last : ∀ other ∈ next.commitments,
      joinedName other.tableID other.partitionID =
        joinedName commitment.tableID commitment.partitionID →
      textKey other.tableID ≤ textKey commitment.tableID) :
    (partitionRootIndex next).lookup (joinedName commitment.tableID commitment.partitionID) =
      some commitment.root := by
  rw [partitionRootIndex_eq trace.effect.placed]
  apply lookup_insertAll_of_last trace.commitments_ordered listed
  rintro other otherListed sameName ⟨below, apart⟩
  have sameTable : other.tableID = commitment.tableID :=
    textKey_injective (le_antisymm (last other otherListed sameName) below)
  rw [sameTable, joinedName_right_inj] at sameName
  exact apart (by rw [sameTable, sameName])

/-- The listed roots are those of the manifest exactly when joined names tell them. -/
theorem Applied.roots_listed_iff :
    (∀ commitment ∈ result.partitionCommitmentsAfter, commitment ∈ next.commitments) ↔
      NamesTell primitives executor prev job batches := by
  -- the commitment of a partition in the next manifest
  let entry := fun tableID partitionID : Bytes => (⟨tableID, partitionID,
    lthashHex (contentAfter primitives executor prev job batches tableID partitionID)⟩ :
      PartitionCommitment)
  have inNext : ∀ {tableID partitionID},
      DeclaredAfter prev job batches tableID partitionID →
      entry tableID partitionID ∈ next.commitments :=
    fun declared => trace.mem_commitments_next.mpr ⟨declared, rfl⟩
  have isEntry : ∀ {tableID partitionID root},
      PartitionCommitment.mk tableID partitionID root ∈ next.commitments →
      root = (entry tableID partitionID).root :=
    fun listed => (trace.mem_commitments_next.mp listed).2
  rw [trace.partitionCommitmentsAfter, affectedPartitionCommitments, forall_mem_map]
  constructor
  · intro listed tableID partitionID lastTable lastPartition received declared sameName last
    have own := isEntry (listed (tableID, partitionID) (trace.mem_sortTouched.mpr received))
    have found := trace.root_found (inNext declared) fun other otherListed same =>
      last _ _ (trace.mem_commitments_next.mp otherListed).1 (same.trans sameName)
    rw [sameName, joinedName] at found
    rw [found, Option.getD_some] at own
    have back := congrArg lthashFromHex own
    simpa only [entry, lthashFromHex_lthashHex, Option.some.injEq] using back
  · rintro tell ⟨tableID, partitionID⟩ touched
    have received := trace.mem_sortTouched.mp touched
    obtain ⟨last, lastListed, sameName, greatest⟩ := exists_last_named (inNext (.inr received))
    have lastContent := trace.mem_commitments_next.mp lastListed
    have found := trace.root_found lastListed fun other otherListed same =>
      greatest other otherListed (same.trans sameName)
    have content := tell _ _ _ _ received lastContent.1 sameName fun otherTable otherPartition
        declared same => greatest (entry otherTable otherPartition) (inNext declared) same
    rw [sameName, lastContent.2, content] at found
    simp only [joinedName, entry] at found
    rw [found, Option.getD_some]
    exact inNext (.inr received)

/-- A partition that received no rows keeps its root. -/
theorem Applied.root_kept (kept : commitment.tableID ∉ job.retiredIDs)
    (untouched : ¬Received batches commitment.tableID commitment.partitionID) :
    commitment ∈ next.commitments ↔ commitment ∈ prev.commitments := by
  rw [trace.received_iff] at untouched
  have noParts : partsAt trace.state.affected commitment.tableID commitment.partitionID = [] := by
    rw [eq_nil_iff_forall_not_mem]
    intro part member
    rw [mem_partsAt] at member
    exact untouched ⟨part, member⟩
  rw [trace.consistent_next.mem_commitments_iff, trace.consistent_prev.mem_commitments_iff,
    trace.effect.declares, trace.effect.accumulated, if_neg kept, noParts, hashSum_nil, add_zero]
  simp [kept, untouched]

end Roots

section Evidence

/-- What the lists of a result name, and what is carried over. -/
structure Evidence
    (prev next : SafeSnapshotManifest)
    (job : ReplayJob)
    (batches : List (StatementRows α))
    (result : ExecutionResult) : Prop where
  partitions : ∀ tableID partitionID, (∃ commitment ∈ result.partitionCommitmentsAfter,
        commitment.tableID = tableID ∧ commitment.partitionID = partitionID) ↔
      Received batches tableID partitionID
  partitionsNodup : (result.partitionCommitmentsAfter.map fun commitment =>
      (commitment.tableID, commitment.partitionID)).Nodup
  parts : next.parts.Perm (prev.parts.filter (fun part => decide (part.tableID ∉ job.retiredIDs)) ++
        result.affectedParts)
  tables : ∀ tableID, tableID ∈ next.tableIDs ↔
      (tableID ∈ prev.tableIDs ∧ tableID ∉ job.retiredIDs) ∨ tableID ∈ job.addedIDs
  schemas : ∀ table ∈ prev.tables, table.tableID ∉ job.retiredIDs →
      ∃ after ∈ next.tables, after.tableID = table.tableID ∧ after.schemaHash = table.schemaHash
  roots : ∀ commitment : PartitionCommitment, commitment.tableID ∉ job.retiredIDs →
      ¬Received batches commitment.tableID commitment.partitionID →
      (commitment ∈ next.commitments ↔ commitment ∈ prev.commitments)

theorem Applied.evidence (trace : Applied primitives executor prev job batches next result) :
    Evidence prev next job batches result where
  partitions := by
    intro tableID partitionID
    rw [trace.partitionCommitmentsAfter, ← trace.mem_sortTouched]
    simp [affectedPartitionCommitments]
  partitionsNodup := by
    rw [trace.partitionCommitmentsAfter, affectedPartitionCommitments, map_map]
    exact Nodup.map (fun _ _ same => same) ((sortBy_perm _ _).nodup_iff.mpr trace.tracked.nodup)
  parts := by
    have affected : result.affectedParts = sortedParts trace.state.affected :=
      congrArg ExecutionResult.affectedParts trace.resultEq
    rw [affected]
    exact trace.effect.parts_perm.trans ((sortBy_perm _ _).symm.append_left _)
  tables := trace.effect.tables
  schemas := fun _ member kept => trace.exists_table member kept
  roots := fun _ kept untouched => trace.root_kept kept untouched

/--
The result of an accepted job names what the block wrote, and the rest is
carried over; the listed roots are those of the manifest if and only if the
last partition of each joined name holds the same content.
-/
theorem evidence_exact
    (primitives : Primitives α)
    (executor : Executor α)
    (prev next : SafeSnapshotManifest)
    (job : ReplayJob)
    (batches : List (StatementRows α))
    (result : ExecutionResult)
    (applied : executor.applyRows primitives prev job batches = .ok (next, result)) :
    Evidence prev next job batches result ∧
    ((∀ commitment ∈ result.partitionCommitmentsAfter, commitment ∈ next.commitments) ↔
      NamesTell primitives executor prev job batches) := by
  obtain ⟨trace⟩ := applyRows_ok applied
  exact ⟨trace.evidence, trace.roots_listed_iff⟩

end Evidence

section Example

/-- One table on its own gives every partition a name of its own. -/
theorem namesTell_of_one_table
    {only : Bytes}
    (one : ∀ tableID partitionID,
      DeclaredAfter prev job batches tableID partitionID → tableID = only) :
    NamesTell primitives executor prev job batches := by
  intro tableID partitionID lastTable lastPartition received declared sameName _
  obtain rfl := one tableID partitionID (.inr received)
  obtain rfl := one lastTable lastPartition declared
  rw [joinedName_right_inj.mp sameName]

/-- A row of the one table, in the given partition. -/
def eventsRowIn (partitionID : Bytes) (body : UInt8) : Row Bytes :=
  { eventsRow body with partitionID := partitionID }

/-- Two statements with rows for two partitions, next to the one of the first block. -/
def eventsBatches : List (StatementRows Bytes) :=
  [eventsInsert 1 [eventsRowIn (ascii "new") 8, eventsRowIn (ascii "old") 9],
    eventsInsert 2 [eventsRowIn (ascii "new") 10]]

/-- A second block writes to two partitions and carries the one of the first over. -/
theorem evidence_exact_events : ∃ prev first next result,
    eventsExecutor.applyRows flatPrimitives (eventsGenesis 0) (eventsBlock 1)
        [eventsInsert 1 [eventsRow 7]] = .ok (prev, first) ∧
      eventsExecutor.applyRows flatPrimitives prev (eventsBlock 2) eventsBatches =
        .ok (next, result) ∧
      Evidence prev next (eventsBlock 2) eventsBatches result ∧
      ∀ commitment ∈ result.partitionCommitmentsAfter, commitment ∈ next.commitments := by
  have genesis := eventsGenesis_chained 0
  obtain ⟨prev, first, opened⟩ := eventsRow_accepted genesis 1 7
  obtain ⟨trace⟩ := applyRows_ok opened
  have chained := trace.chained_next genesis (by decide)
  have targets : ∀ batch ∈ eventsBatches, batch.targetTableID = ascii "events" := by
    decide
  obtain ⟨next, result, applied⟩ : ∃ next result,
      eventsExecutor.applyRows flatPrimitives prev (eventsBlock 2) eventsBatches =
        .ok (next, result) := by
    refine eventsBlock_accepted chained rfl rfl rfl targets ?_
    intro batch member
    simp only [eventsBatches, mem_cons, not_mem_nil, or_false] at member
    rcases member with rfl | rfl
    · exact ⟨_, _, rfl, rfl⟩
    · exact ⟨_, _, rfl, rfl⟩
  obtain ⟨evidence, roots⟩ := evidence_exact flatPrimitives eventsExecutor prev next
    (eventsBlock 2) eventsBatches result applied
  refine ⟨prev, first, next, result, opened, applied, evidence, roots.mpr ?_⟩
  apply namesTell_of_one_table
  rintro tableID partitionID (⟨⟨commitment, declared, rfl, -⟩, -⟩ | ⟨batch, member, rfl, -⟩)
  · obtain ⟨table, listed, inTable⟩ := mem_flatMap.mp declared
    rw [((chained.placed.tables table listed).partitions commitment inTable).1]
    exact eventsExecutor_tables _ (((chained.static rfl).1 _).mp (mem_map_of_mem listed))
  · exact targets batch member

/-- Hashes that tell elements of different lengths apart. -/
def lengthPrimitives : Primitives Bytes :=
  { flatPrimitives with elementHash := fun element _ => UInt16.ofNat element.length }

def zeroSchemas : List TableSchema :=
  [{ eventsSchema with tableID := [97] }, { eventsSchema with tableID := [97, 0, 98] }]

def zeroExecutor : Executor Bytes := newWithMaterializer (ascii "net") none zeroSchemas

def zeroInsert (statementID tableID partitionID : Bytes) (seq : UInt64) : StatementRows Bytes :=
  { eventsInsert seq [{ eventsRow 7 with partitionID := partitionID }] with
    statementID := statementID
    targetTableID := tableID }

set_option maxRecDepth 100000 in
/-- With zero bytes in them the ids of two partitions make one key. -/
theorem evidence_root_of_another : ((zeroExecutor.applyRows lengthPrimitives
        (zeroExecutor.genesisSnapshot lengthPrimitives 0 (ascii "schema-1") (ascii "profile-1"))
        (eventsBlock 1)
        [zeroInsert [1] [97] [98, 0, 99] 1, zeroInsert [2] [97, 0, 98] [99] 2]).toOption.any
      fun returned => returned.2.partitionCommitmentsAfter.any
        fun commitment => !returned.1.commitments.contains commitment) = true := by
  decide +kernel

end Example

end HouseGate.Replay
