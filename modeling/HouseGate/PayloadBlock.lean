import HouseGate.PayloadTables

namespace HouseGate.Replay

open DecimalText LtHash CheckedSteps List SafeSnapshotManifest TableManifest Executor ReplayJob

/-!
# What applying a block does to the ledger

The checks on the previous manifest are read off as facts about it, and the
three phases of `ApplyRows` are put together: the content of the next manifest
is given by the content of the previous one and the parts of the block.
-/

variable {α : Type} {primitives : Primitives α} {executor : Executor α}
variable {job : ReplayJob}

section Inputs

variable {prev : SafeSnapshotManifest}
variable {batches : List (StatementRows α)} {schemas : Map TableSchema}
variable {carried targeted : List Bytes}

theorem TableManifest.partitionsDistinct_iff {table : TableManifest} :
    table.partitionsDistinct = true ↔ (∀ commitment ∈ table.partitionRoots,
        commitment.tableID = table.tableID ∧ commitment.partitionID ≠ []) ∧
      (table.partitionRoots.map PartitionCommitment.partitionID).Nodup := by
  simp [partitionsDistinct, allFresh_iff]

theorem TableManifest.partsDistinct_iff {table : TableManifest} : table.partsDistinct = true ↔
    (∀ part ∈ table.activeParts,
      part.tableID = table.tableID ∧ part.partName ≠ [] ∧ part.partitionID ≠ []) ∧
    (table.activeParts.map PartManifestEntry.partName).Nodup := by
  simp [partsDistinct, allFresh_iff, and_assoc]

/-- The checks on one listed table. -/
structure TableAccepted
    (primitives : Primitives α)
    (executor : Executor α)
    (schemas : Map TableSchema)
    (carried targeted : List Bytes)
    (table : TableManifest) :
    Prop where
  placed : table.Placed
  namesNodup : (table.activeParts.map PartManifestEntry.partName).Nodup
  schema : executor.checkTableSchema primitives schemas carried targeted table = .ok ()

theorem checkTables_ok_iff {seen : List Bytes} {tables : List TableManifest} :
    executor.checkTables primitives schemas carried targeted seen tables = .ok () ↔
      (∀ table ∈ tables, table.tableID ∉ seen ∧
        TableAccepted primitives executor schemas carried targeted table) ∧
      (tables.map tableID).Nodup := by
  induction tables generalizing seen with
  | nil => simp [checkTables]
  | cons table rest inductionHypothesis =>
    simp only [checkTables, guard_eq_ok_iff, check_eq_ok_iff,
      inductionHypothesis, not_or, Bool.not_eq_false,
      partitionsDistinct_iff,
      partsDistinct_iff, map_cons, nodup_cons,
      mem_cons, forall_eq_or_imp]
    constructor
    · rintro ⟨⟨nonempty, fresh⟩, schema, ⟨partitions, partitionsNodup⟩,
        ⟨parts, namesNodup⟩, others, distinct⟩
      refine ⟨⟨⟨fresh, ⟨nonempty, partitions, partitionsNodup, parts⟩,
        namesNodup, schema⟩, ?_⟩, ?_, distinct⟩
      · intro other member
        exact ⟨(others other member).1.2, (others other member).2⟩
      · intro repeated
        obtain ⟨other, member, same⟩ := mem_map.mp repeated
        exact (others other member).1.1 same
    · rintro ⟨⟨⟨fresh, placed, namesNodup, schema⟩, others⟩, firstNew, distinct⟩
      refine ⟨⟨placed.tableID, fresh⟩, schema, ⟨placed.partitions, placed.partitionsNodup⟩,
        ⟨placed.parts, namesNodup⟩, ?_, distinct⟩
      intro other member
      refine ⟨⟨?_, (others other member).1⟩, (others other member).2⟩
      intro same
      exact firstNew (mem_map.mpr ⟨other, member, same⟩)

theorem checkBatch_ok_iff {batch : StatementRows α} : checkBatch schemas batch = .ok () ↔
    schemas.lookup batch.targetTableID ≠ none ∧ batch.rows.isSome := by
  simp [checkBatch, guard_eq_ok_iff, Option.isSome_iff_ne_none]

/-- What `validateAppendInputs` has checked when it passes. -/
structure AppendInputs
    (primitives : Primitives α)
    (executor : Executor α)
    (prev : SafeSnapshotManifest)
    (batches : List (StatementRows α))
    (schemas : Map TableSchema)
    (carried : List Bytes) :
    Prop where
  valid : prev.Valid primitives.sum256
  staticSize : executor.dynamic = false → prev.tables.length = executor.tables.keys.length
  tables : ∀ table ∈ prev.tables, TableAccepted primitives executor schemas carried
      (batches.map StatementRows.targetTableID) table
  tablesNodup : prev.tableIDs.Nodup
  schemaRoot : prev.schemaRoot = schemaRootFromHashes primitives (schemaHashesOf prev.tables)
  batches : ∀ batch ∈ batches, schemas.lookup batch.targetTableID ≠ none ∧ batch.rows.isSome

theorem validateAppendInputs_ok_iff :
    executor.validateAppendInputs primitives prev batches schemas carried = .ok () ↔
      AppendInputs primitives executor prev batches schemas carried := by
  unfold validateAppendInputs
  cases validated : prev.validate primitives.sum256 with
  | error reason =>
    constructor
    · intro passed
      cases passed
    · intro inputs
      have valid := validate_ok_iff.mpr inputs.valid
      rw [validated] at valid
      cases valid
  | ok accepted =>
    have valid : prev.Valid primitives.sum256 := validate_ok_iff.mp validated
    simp only [guard_eq_ok_iff, check_eq_ok_iff, checkTables_ok_iff,
      checkEach_eq_ok_iff, checkBatch_ok_iff, ne_eq, not_and, not_not]
    constructor
    · rintro ⟨staticSize, ⟨tables, distinct⟩, schemaRoot, supplied⟩
      exact ⟨valid, staticSize, fun table member => (tables table member).2,
        distinct, schemaRoot, supplied⟩
    · intro inputs
      exact ⟨inputs.staticSize,
        ⟨fun table member => ⟨not_mem_nil, inputs.tables table member⟩, inputs.tablesNodup⟩,
        inputs.schemaRoot, inputs.batches⟩

theorem AppendInputs.placed
    (inputs : AppendInputs primitives executor prev batches schemas carried) :
    prev.Placed :=
  ⟨fun table member => (inputs.tables table member).placed, inputs.tablesNodup⟩

end Inputs

variable {blockSeq : UInt64} {start : LedgerParts} {state : AppendState}

section Effect

variable {prev next : SafeSnapshotManifest} {result : ExecutionResult}
variable {batches : List (StatementRows α)}

/-- What `ApplyRows` has gone through when it returns. -/
structure Applied
    (primitives : Primitives α)
    (executor : Executor α)
    (prev : SafeSnapshotManifest)
    (job : ReplayJob)
    (batches : List (StatementRows α))
    (next : SafeSnapshotManifest)
    (result : ExecutionResult) where
  schemas : Map TableSchema
  ledger : LedgerState
  schemaRoot : Bytes
  state : AppendState
  ledgerVerified : verifyLedger prev = .ok ()
  statementsValid : validateBlockStatements [] 0 batches = .ok ()
  transitionChecked : checkTransition job batches = .ok ()
  schemasResolved : executor.schemasForJob primitives job = .ok schemas
  inputs : AppendInputs primitives executor prev batches schemas (carriedTableIDs job)
  opened : executor.openLedger primitives prev job schemas = .ok (ledger, schemaRoot)
  appended : batches.foldlM (appendStatement primitives schemas job.blockSeq)
      { parts := ledger.parts, touched := [], affected := [] } = .ok state
  nextEq :
    next =
      nextManifest primitives prev job.blockSeq schemaRoot
        (state.parts.entries.map (rebuiltTable ledger.schemaHashes))
  resultEq : result = executionResult primitives job batches next state

theorem liftLedger_eq_ok_iff {step : Except LedgerRefusal β} {value : β} :
    liftLedger step = .ok value ↔ step = .ok value := by
  cases step with
  | error reason | ok passed => simp [liftLedger]

theorem applyRows_ok
    (applied : executor.applyRows primitives prev job batches = .ok (next, result)) :
    Nonempty (Applied primitives executor prev job batches next result) := by
  simp only [applyRows, bind_eq_ok_iff, liftLedger_eq_ok_iff,
    rebuildTables_ok_iff] at applied
  obtain ⟨⟨⟩, ledgerVerified, ⟨⟩, statementsValid, ⟨⟩, transitionChecked,
    schemas, schemasResolved, ⟨⟩, inputs, ⟨ledger, schemaRoot⟩, opened,
    state, appended, _, ⟨_, rfl⟩, returned⟩ := applied
  cases returned
  exact ⟨{
    schemas, ledger, schemaRoot, state, ledgerVerified, statementsValid
    transitionChecked, schemasResolved, opened, appended
    inputs := validateAppendInputs_ok_iff.mp inputs
    nextEq := rfl, resultEq := rfl }⟩

theorem partNameOf_ne_nil (partitionID : Bytes) (blockSeq statementSeq : UInt64) :
    partNameOf partitionID blockSeq statementSeq ≠ [] := by
  have dash : AsciiText.ascii "-b" ≠ [] := by
    decide
  simp [partNameOf, dash]

theorem replayTableSchemasOrdered_nonempty {previous : Bytes} {schemas : List ReplayTableSchema}
    (ordered : replayTableSchemasOrdered previous schemas = true) :
    ∀ schema ∈ schemas, schema.tableID ≠ [] := by
  induction schemas generalizing previous with
  | nil => exact forall_mem_nil _
  | cons first rest inductionHypothesis =>
    simp only [replayTableSchemasOrdered, Bool.and_eq_true, bne_iff_ne, ne_eq] at ordered
    obtain ⟨⟨⟨nonempty, _⟩, _⟩, restOrdered⟩ := ordered
    exact forall_mem_cons.mpr ⟨nonempty, inductionHypothesis restOrdered⟩

theorem addedIDs_nonempty (checked : checkTransition job batches = .ok ()) :
    ∀ tableID ∈ job.addedIDs, tableID ≠ [] := by
  cases transitionEq : job.tableSetTransition with
  | none => simp [addedIDs, transitionEq]
  | some transition =>
    simp only [checkTransition, transitionEq, guard_eq_ok_iff, Bool.not_eq_false] at checked
    have canonical := checked.2.1
    simp only [ReplayTableSetTransition.isCanonical, Bool.and_eq_true] at canonical
    have ordered := canonical.1.2
    intro tableID member
    simp only [addedIDs, transitionEq, Option.elim_some, mem_map] at member
    obtain ⟨schema, listed, rfl⟩ := member
    exact replayTableSchemasOrdered_nonempty ordered schema listed

/-- A part of a block: its statement, its name and what it sums. -/
theorem BlockAppended.affected_part {schemas : Map TableSchema}
    (block : BlockAppended primitives schemas blockSeq batches start state)
    {part : PartManifestEntry} (member : part ∈ state.affected) :
    ∃ batch ∈ batches, ∃ totals : PartAgg, part =
        newPart primitives (targetSchema schemas batch) blockSeq
          batch.statementSeq part.partitionID totals ∧
      part.partitionID ≠ [] := by
  obtain ⟨built, paired, collected⟩ := block.built
  rw [collected] at member
  obtain ⟨parts, listed, inParts⟩ := mem_flatten.mp member
  obtain ⟨batch, inBlock, source, _, made⟩ := exists_paired paired.flip listed
  have spec := (buildParts_ok made).2
  obtain ⟨totals, same, _⟩ := spec.built part inParts
  obtain ⟨row, inRows, own⟩ :=
    (spec.partitions part.partitionID).mp (mem_map.mpr ⟨part, inParts, rfl⟩)
  exact ⟨batch, inBlock, totals, same, own ▸ (spec.accepted row inRows).1⟩

theorem newPart_decodes
    (schema : TableSchema)
    (blockSeq statementSeq : UInt64)
    (partitionID : Bytes)
    (totals : PartAgg) :
    lthashFromHex (newPart primitives schema blockSeq statementSeq partitionID
        totals).partRowLtHash =
      some totals.acc :=
  lthashFromHex_lthashHex totals.acc

/-- The entries of an opened ledger stay placed when a block is appended. -/
theorem entriesPlaced_of_block
    {schemas : Map TableSchema}
    {ledger : LedgerState}
    (placed : prev.Placed)
    (sound : prev.LedgerSound)
    (checked : checkTransition job batches = .ok ())
    (ledgerOpened : OpenedLedger prev job.retiredIDs job.addedIDs ledger)
    (block : BlockAppended primitives schemas job.blockSeq batches ledger.parts state) :
    EntriesPlaced state.parts where
  tables := by
    intro tableID listed
    have inLedger := (block.appended.tables tableID).mp listed
    rcases (ledgerOpened.opened.tables tableID).mp inLedger with
      ⟨inPrev, _⟩ | added
    · obtain ⟨table, member, rfl⟩ := mem_map.mp inPrev
      exact (placed.tables table member).tableID
    · exact addedIDs_nonempty checked tableID added
  partitions := by
    intro tableID partitionID has
    rcases (block.appended.partitions tableID partitionID).mp has with
      before | ⟨part, member, rfl, rfl⟩
    · obtain ⟨declared, _⟩ := (ledgerOpened.opened.partitions tableID partitionID).mp before
      obtain ⟨table, listed, _, commitment, inTable, rfl⟩ := placed.declares_iff.mp declared
      exact ((placed.tables table listed).partitions commitment inTable).2
    · obtain ⟨_, _, _, _, nonempty⟩ := block.affected_part member
      exact nonempty
  entries := by
    intro tableID partitionID part member
    rw [block.appended.entries, ledgerOpened.opened.entries] at member
    rcases mem_append.mp member with before | new
    · by_cases retired : tableID ∈ job.retiredIDs
      · rw [if_pos retired] at before
        cases before
      rw [if_neg retired, mem_partsAt] at before
      obtain ⟨listed, sameTable, samePartition⟩ := before
      obtain ⟨table, inPrev, inTable⟩ := mem_flatMap.mp listed
      have named := ((placed.tables table inPrev).parts part inTable).2.1
      exact ⟨sameTable, samePartition, named, (sound table inPrev).decodes part inTable⟩
    · rw [mem_partsAt] at new
      obtain ⟨affected, sameTable, samePartition⟩ := new
      obtain ⟨batch, _, totals, made, _⟩ := block.affected_part affected
      refine ⟨sameTable, samePartition, ?_, ?_⟩
      · rw [made]
        exact partNameOf_ne_nil _ _ _
      · rw [made, newPart_decodes]
        rfl

/-- The content of the next manifest from that of the previous one. -/
structure BlockEffect
    (prev next : SafeSnapshotManifest)
    (job : ReplayJob)
    (affected : List PartManifestEntry) :
    Prop where
  placed : next.Placed
  sound : next.LedgerSound
  tables : ∀ tableID, tableID ∈ next.tableIDs ↔
      (tableID ∈ prev.tableIDs ∧ tableID ∉ job.retiredIDs) ∨ tableID ∈ job.addedIDs
  declares : ∀ tableID partitionID, next.Declares tableID partitionID ↔
      (prev.Declares tableID partitionID ∧ tableID ∉ job.retiredIDs) ∨
        ∃ part ∈ affected, part.tableID = tableID ∧ part.partitionID = partitionID
  parts : ∀ tableID partitionID, (partsAt next.parts tableID partitionID).Perm
      ((if tableID ∈ job.retiredIDs then []
        else partsAt prev.parts tableID partitionID) ++ partsAt affected tableID partitionID)

/-- The parts of the next manifest are the ones kept and the ones added. -/
theorem BlockEffect.parts_perm {affected : List PartManifestEntry}
    (effect : BlockEffect prev next job affected) :
    next.parts.Perm
      (prev.parts.filter (fun part => decide (part.tableID ∉ job.retiredIDs)) ++ affected) := by
  rw [perm_iff_count]
  intro part
  have own : ∀ parts : List PartManifestEntry,
      (partsAt parts part.tableID part.partitionID).count part = parts.count part :=
    fun parts => count_filter (by simp)
  have counted := (effect.parts part.tableID part.partitionID).count_eq part
  rw [own, count_append, own] at counted
  rw [counted, count_append]
  by_cases retired : part.tableID ∈ job.retiredIDs
  · have gone : part ∉ prev.parts.filter (fun part => decide (part.tableID ∉ job.retiredIDs)) := by
      simp [retired]
    rw [if_pos retired, count_eq_zero_of_not_mem gone, count_nil]
  · rw [if_neg retired, own, count_filter (by simpa using retired)]

namespace Applied

variable   (trace : Applied primitives executor prev job batches next result)

include trace

theorem prev_sound : prev.LedgerSound := verifyLedger_ok_iff.mp trace.ledgerVerified

theorem openedLedger : OpenedLedger prev job.retiredIDs job.addedIDs trace.ledger :=
  (openLedger_ok trace.inputs.placed trace.prev_sound trace.transitionChecked trace.opened).1

theorem block :
    BlockAppended primitives trace.schemas job.blockSeq batches trace.ledger.parts trace.state :=
  appendStatements_ok trace.appended

theorem entriesPlaced : EntriesPlaced trace.state.parts :=
  entriesPlaced_of_block trace.inputs.placed trace.prev_sound
    trace.transitionChecked trace.openedLedger trace.block

theorem rebuiltFrom : RebuiltFrom trace.ledger.schemaHashes trace.state.parts next := by
  have transported : ∀ manifest, next = manifest →
      RebuiltFrom trace.ledger.schemaHashes trace.state.parts manifest →
      RebuiltFrom trace.ledger.schemaHashes trace.state.parts next := by
    rintro _ rfl rebuilt
    exact rebuilt
  exact transported _ trace.nextEq (rebuiltFrom_nextManifest prev job.blockSeq trace.schemaRoot _ _)

/-- The effect of a block on the content of a manifest. -/
theorem effect : BlockEffect prev next job trace.state.affected where
  placed := trace.rebuiltFrom.placed trace.entriesPlaced
  sound := trace.rebuiltFrom.ledgerSound trace.entriesPlaced
  tables := by
    intro tableID
    rw [trace.rebuiltFrom.mem_tableIDs, trace.block.appended.tables,
      trace.openedLedger.opened.tables]
  declares := by
    intro tableID partitionID
    rw [trace.rebuiltFrom.declares_iff trace.entriesPlaced,
      trace.block.appended.partitions, trace.openedLedger.opened.partitions]
  parts := by
    intro tableID partitionID
    have kept := trace.rebuiltFrom.partsAt_perm trace.entriesPlaced tableID partitionID
    rw [trace.block.appended.entries, trace.openedLedger.opened.entries] at kept
    exact kept

end Applied

theorem BlockEffect.accumulated
    {affected : List PartManifestEntry} (effect : BlockEffect prev next job affected)
    (tableID partitionID : Bytes) :
    next.accumulated tableID partitionID = (if tableID ∈ job.retiredIDs then 0
        else prev.accumulated tableID partitionID) +
        hashSum (partsAt affected tableID partitionID) := by
  rw [SafeSnapshotManifest.accumulated,
    hashSum_of_perm (effect.parts tableID partitionID), hashSum_append]
  by_cases retired : tableID ∈ job.retiredIDs
  · simp [retired]
  · simp [retired, SafeSnapshotManifest.accumulated]

end Effect

section Acceptance

variable {prev : SafeSnapshotManifest} {schemas : Map TableSchema}
variable {batches : List (StatementRows α)}

/-- A statement can be appended when its parts can be built. -/
theorem appendStatement_total
    {before : AppendState}
    {batch : StatementRows α}
    {parts : List PartManifestEntry}
    (appended : AppendedTo start before)
    (built : BuiltFrom primitives schemas blockSeq batch parts)
    (listed : (targetSchema schemas batch).tableID ∈ start) :
    ∃ after, appendStatement primitives schemas blockSeq before batch = .ok after ∧
      AppendedTo start after := by
  obtain ⟨source, supplied, made⟩ := built
  have placed : ∀ part ∈ parts, ∀ state, AppendedTo start state →
      ∃ after, appendNewPart state part = .ok after ∧ AppendedTo start after := by
    intro part member state holds
    obtain ⟨totals, same, _⟩ := (buildParts_ok made).2.built part member
    have own : part.tableID = (targetSchema schemas batch).tableID := by
      rw [same]
      rfl
    have present : part.tableID ∈ state.parts := (holds.tables part.tableID).mpr (own ▸ listed)
    obtain ⟨byPartition, found⟩ := MapFolds.mem_iff_lookup.mp present
    obtain ⟨after, stepped⟩ : ∃ after, appendNewPart state part = .ok after :=
      ⟨_, by rw [appendNewPart, found]⟩
    exact ⟨after, stepped, (holds.appendNewPart stepped).1⟩
  obtain ⟨after, folded, holds⟩ := foldlM_total (AppendedTo start) placed appended
  refine ⟨after, ?_, holds⟩
  simp only [appendStatement, supplied, bind_eq_ok_iff, liftBuild_eq_ok_iff]
  exact ⟨parts, made, folded⟩

/-- A block whose statements can be appended is accepted. -/
theorem applyRows_of_appended
    {ledger : LedgerState}
    {root : Bytes}
    (sound : prev.LedgerSound)
    (statementsValid : validateBlockStatements [] 0 batches = .ok ())
    (checked : checkTransition job batches = .ok ())
    (resolved : executor.schemasForJob primitives job = .ok schemas)
    (inputs : AppendInputs primitives executor prev batches schemas (carriedTableIDs job))
    (opened : executor.openLedger primitives prev job schemas = .ok (ledger, root))
    (appended : batches.foldlM (appendStatement primitives schemas job.blockSeq)
      { parts := ledger.parts, touched := [], affected := [] } = .ok state) :
    ∃ next result, executor.applyRows primitives prev job batches = .ok (next, result) := by
  have ledgerOpened := (openLedger_ok inputs.placed sound checked opened).1
  have block := appendStatements_ok appended
  have entriesPlaced := entriesPlaced_of_block inputs.placed sound checked ledgerOpened block
  have decodes : ∀ table ∈ state.parts.entries, ∀ partition ∈ table.2.entries,
      ∀ part ∈ partition.2, (lthashFromHex part.partRowLtHash).isSome := by
    rintro ⟨tableID, byPartition⟩ tableListed partition partitionListed part member
    have found := AList.mem_lookup_iff.mpr tableListed
    exact ((entriesPlaced.entry found partitionListed).2 part member).2.2.2
  have rebuilt : rebuildTables ledger.schemaHashes state.parts =
      .ok (state.parts.entries.map (rebuiltTable ledger.schemaHashes)) :=
    rebuildTables_ok_iff.mpr ⟨decodes, rfl⟩
  have verified := liftLedger_eq_ok_iff.mpr (verifyLedger_ok_iff.mpr sound)
  simp only [applyRows, bind_eq_ok_iff]
  exact ⟨_, _, (), verified, (), statementsValid, (), checked, schemas,
    resolved, (), validateAppendInputs_ok_iff.mpr inputs, (ledger, root),
    opened, state, appended, _, rebuilt, rfl⟩

/-- A block of statements is accepted when its inputs and rows are. -/
theorem applyRows_accepts
    (sound : prev.LedgerSound) (statementsValid : validateBlockStatements [] 0 batches = .ok ())
    (rowsOnly : job.tableSetTransition = none)
    (resolved : executor.schemasForJob primitives job = .ok schemas)
    (inputs : AppendInputs primitives executor prev batches schemas (carriedTableIDs job))
    (built : ∀ batch ∈ batches, ∃ parts, BuiltFrom primitives schemas job.blockSeq batch parts)
    (listed : ∀ batch ∈ batches, (targetSchema schemas batch).tableID ∈ prev.tableIDs) :
    ∃ next result, executor.applyRows primitives prev job batches = .ok (next, result) := by
  have checked : checkTransition job batches = .ok () := by
    simp [checkTransition, rowsOnly]
  have noRetires : job.retiredIDs = [] := by
    simp [retiredIDs, rowsOnly]
  have noAdds : job.addedIDs = [] := by
    simp [addedIDs, rowsOnly]
  obtain ⟨ledger, root, opened⟩ :
      ∃ ledger root, executor.openLedger primitives prev job schemas = .ok (ledger, root) :=
    ⟨_, _, by rw [openLedger, rowsOnly]⟩
  have ledgerOpened := (openLedger_ok inputs.placed sound checked opened).1
  have inLedger : ∀ batch ∈ batches, (targetSchema schemas batch).tableID ∈ ledger.parts := by
    intro batch member
    rw [ledgerOpened.opened.tables, noRetires, noAdds]
    exact .inl ⟨listed batch member, not_mem_nil⟩
  obtain ⟨state, appended, _⟩ := foldlM_total (AppendedTo ledger.parts)
      (fun batch member before holds => by
        obtain ⟨parts, made⟩ := built batch member
        exact appendStatement_total holds made (inLedger batch member))
      (appendedTo_start ledger.parts)
  exact applyRows_of_appended sound statementsValid checked resolved inputs opened appended

end Acceptance

end HouseGate.Replay
