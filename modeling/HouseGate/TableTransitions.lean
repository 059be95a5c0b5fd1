import HouseGate.LedgerEvidence

namespace HouseGate.Replay

open AsciiText DecimalText CheckedSteps MapFolds List TableManifest

/-!
# Transitions of the table set

A transition retires tables and adds empty ones.  Once the job has the shape of
a transition and the previous manifest passes its checks, it is accepted
exactly when it fits the previous set and declares the schema root of the next
one; the next manifest then holds the tables of that set and no others.
-/

variable {α : Type} {primitives : Primitives α} {executor : Executor α} {job : ReplayJob}
variable {prev next : SafeSnapshotManifest} {table after : TableManifest} {tableID : Bytes}
variable {batches : List (StatementRows α)} {result : ExecutionResult}

section Carried

variable (trace : Applied primitives executor prev job batches next result)

include trace

theorem Applied.normalized_next (member : table ∈ next.tables) : table.normalized = table := by
  rw [← trace.sealed_next, SafeSnapshotManifest.mem_normalized_tables] at member
  obtain ⟨listed, _, rfl⟩ := member
  exact listed.normalized_normalized

/-- A table that is left and received no rows keeps what it had, its listings in order. -/
theorem Applied.unwritten (kept : table.tableID ∉ job.retiredIDs)
    (left : table.tableID ∈ next.tableIDs)
    (hashed : trace.ledger.schemaHashes.lookup table.tableID = some table.schemaHash)
    (ownRoots : prev.commitments.filter (fun commitment => commitment.tableID == table.tableID) =
      table.partitionRoots)
    (ownParts : prev.parts.filter (fun part => part.tableID == table.tableID) = table.activeParts)
    (rooted : (table.partitionRoots.map PartitionCommitment.partitionID).Nodup)
    (named : (table.activeParts.map PartManifestEntry.partName).Nodup)
    (untouched : ∀ partitionID, ¬Received batches table.tableID partitionID) :
    table.normalized ∈ next.tables := by
  have placed := trace.effect.placed
  obtain ⟨after, inNext, sameID⟩ := mem_map.mp left
  have sameHash : after.schemaHash = table.schemaHash := by
    have afterHashed := trace.schemaHash_next inNext
    rw [sameID, hashed] at afterHashed
    exact (Option.some.inj afterHashed).symm
  have roots : table.partitionRoots.Perm after.partitionRoots := by
    rw [perm_ext_iff_of_nodup rooted.of_map (placed.tables after inNext).partitionsNodup.of_map]
    intro commitment
    rw [← ownRoots, ← placed.commitments_filter inNext, sameID, mem_filter, mem_filter]
    refine and_congr_left fun own => ?_
    rw [beq_iff_eq] at own
    exact (trace.root_kept (own ▸ kept) (own ▸ untouched _)).symm
  have parts : table.activeParts.Perm after.activeParts := by
    have both := trace.effect.parts_perm.filter fun part => part.tableID == table.tableID
    have noneNew :
        trace.state.affected.filter (fun part => part.tableID == table.tableID) = [] := by
      rw [filter_eq_nil_iff]
      intro part new own
      exact untouched part.partitionID (trace.received_iff.mpr ⟨part, new, beq_iff_eq.mp own, rfl⟩)
    have keptParts : (prev.parts.filter fun part => decide (part.tableID ∉ job.retiredIDs)).filter
        (fun part => part.tableID == table.tableID) = table.activeParts := by
      rw [← ownParts, filter_filter]
      apply filter_congr
      intro part _
      by_cases own : part.tableID = table.tableID
      · simp [own, kept]
      · simp [own]
    rw [← sameID, placed.parts_filter inNext, sameID, filter_append, noneNew,
      append_nil, keptParts] at both
    exact both.symm
  have unique : table.Unique :=
    ⟨Nodup.of_map Prod.snd (by rwa [map_map]), Nodup.of_map (·.2.2) (by rwa [map_map])⟩
  have same := TableManifest.Relisted.normalized ⟨sameID.symm, sameHash.symm, roots, parts⟩ unique
  rw [same, trace.normalized_next inNext]
  exact inNext

end Carried

section Acceptance

variable (primitives)

variable (executor)
  (schemas : Map TableSchema)

/-- A table without data, as a transition adds it. -/
def addedTable (added : ReplayTableSchema) : TableManifest :=
  { tableID := added.tableID
    schemaHash := addedHash primitives executor schemas added
    partitionRoots := []
    activeParts := [] }

/-- The tables that are left: the ones not retired and the added ones. -/
def tablesAfter (prev : SafeSnapshotManifest) (transition : ReplayTableSetTransition) :
    List TableManifest :=
  (prev.tables.filter fun table => decide (table.tableID ∉ transition.retires)) ++
    transition.adds.map (addedTable primitives executor schemas)

/-- What is checked of a transition job before it is compared with the tables. -/
structure TransitionReady (prev : SafeSnapshotManifest) (job : ReplayJob)
    (batches : List (StatementRows α)) (transition : ReplayTableSetTransition)
    (schemas : Map TableSchema) : Prop where
  noStatements : batches = []
  ledger : verifyLedger prev = .ok ()
  canonical : transition.isCanonical = true
  resolved : executor.schemasForJob primitives job = .ok schemas
  inputs :
    executor.validateAppendInputs primitives prev batches schemas (carriedTableIDs job) = .ok ()

/-- The transition fits the previous tables and declares the next root. -/
structure TransitionFits (prev : SafeSnapshotManifest) (transition : ReplayTableSetTransition) :
    Prop where
  retires : ∀ id ∈ transition.retires, id ∈ prev.tableIDs
  adds : ∀ added ∈ transition.adds, added.tableID ∉ prev.tableIDs
  root : transition.newSchemaRoot = schemaRootFromHashes primitives
    (schemaHashesOf (tablesAfter primitives executor schemas prev transition))

variable {executor}

variable {primitives}
  {transition : ReplayTableSetTransition} {schemas}

/-- The hashes that a transition leaves are those of the tables it leaves. -/
theorem schemaHashesOf_tablesAfter (placed : prev.Placed) (tableID : Bytes) :
    (schemaHashesOf (tablesAfter primitives executor schemas prev transition)).lookup tableID =
      (insertAll ReplayTableSchema.tableID (addedHash primitives executor schemas) transition.adds
        (eraseAll transition.retires (schemaHashesOf prev.tables))).lookup tableID := by
  have keptHashes : ∀ tableID, (schemaHashesOf (prev.tables.filter
        fun table => decide (table.tableID ∉ transition.retires))).lookup tableID =
      (eraseAll transition.retires (schemaHashesOf prev.tables)).lookup tableID :=
    fun _ => lookup_insertAll_filter placed.tablesNodup fun _ => decide_eq_true_iff
  rw [tablesAfter, schemaHashesOf, insertAll, foldl_append, foldl_map]
  exact lookup_insertAll_congr keptHashes

theorem schemaRoot_tablesAfter (placed : prev.Placed) : schemaRootFromHashes primitives
        (schemaHashesOf (tablesAfter primitives executor schemas prev transition)) =
      schemaRootFromHashes primitives
        (insertAll ReplayTableSchema.tableID (addedHash primitives executor schemas)
          transition.adds (eraseAll transition.retires (schemaHashesOf prev.tables))) :=
  schemaRootFromHashes_congr (schemaHashesOf_tablesAfter placed)

/-- An accepted transition was ready. -/
theorem Applied.ready (carries : job.tableSetTransition = some transition)
    (trace : Applied primitives executor prev job batches next result) :
    TransitionReady primitives executor prev job batches transition trace.schemas := by
  have checked := trace.transitionChecked
  simp only [checkTransition, carries, guard_eq_ok_iff, ne_eq, not_not, Bool.not_eq_false,
    and_true] at checked
  exact ⟨checked.1, trace.ledgerVerified, checked.2, trace.schemasResolved,
    validateAppendInputs_ok_iff.mpr trace.inputs⟩

section Left

variable (carries : job.tableSetTransition = some transition)
variable (trace : Applied primitives executor prev job batches next result)

include carries trace

theorem Applied.nothing_received (tableID partitionID : Bytes) :
    ¬Received batches tableID partitionID := by
  rw [(trace.ready carries).noStatements]
  rintro ⟨_, member, _⟩
  cases member

/-- An accepted transition fits. -/
theorem Applied.fits : TransitionFits primitives executor trace.schemas prev transition := by
  obtain ⟨_, present, absent, hashes, declared, derived⟩ := trace.transitioned carries
  rw [hashes, ← schemaRoot_tablesAfter trace.inputs.placed, declared] at derived
  exact ⟨present, absent, derived⟩

/-- An added table is empty and has the hash of its schema. -/
theorem Applied.added_table {added : ReplayTableSchema} (member : added ∈ transition.adds) :
    (addedTable primitives executor trace.schemas added).normalized ∈ next.tables := by
  have ready := trace.ready carries
  have fresh := (trace.fits carries).adds added member
  have placed := trace.inputs.placed
  obtain ⟨_, _, _, hashes, _⟩ := trace.transitioned carries
  refine trace.unwritten ?_ ?_ ?_ ?_ (placed.parts_filter_of_unlisted fresh) nodup_nil
    nodup_nil (trace.nothing_received carries _)
  · rw [retiredIDs_eq carries]
    exact isCanonical_disjoint ready.canonical added member
  · refine (trace.effect.tables _).mpr (.inr ?_)
    simp only [ReplayJob.addedIDs, carries, Option.elim_some]
    exact mem_map_of_mem member
  · rw [hashes]
    exact lookup_insertAll_of_mem (isCanonical_nodup ready.canonical).2 member
  · exact SafeSnapshotManifest.filter_flatMap_of_unlisted fresh _ _
      fun other listed commitment inTable =>
        ((placed.tables other listed).partitions commitment inTable).1

theorem Applied.mem_tablesAfter
    (left : table ∈ tablesAfter primitives executor trace.schemas prev transition) :
    table.normalized ∈ next.tables := by
  rcases mem_append.mp left with before | new
  · obtain ⟨listed, there⟩ := mem_filter.mp before
    have kept : table.tableID ∉ job.retiredIDs := retiredIDs_eq carries ▸ of_decide_eq_true there
    have accepted := trace.inputs.tables table listed
    exact trace.unwritten kept ((trace.effect.tables _).mpr (.inl ⟨mem_map_of_mem listed, kept⟩))
      (trace.schemaHash_kept listed kept) (trace.inputs.placed.commitments_filter listed)
      (trace.inputs.placed.parts_filter listed) accepted.placed.partitionsNodup accepted.namesNodup
      (trace.nothing_received carries _)
  · obtain ⟨added, member, rfl⟩ := mem_map.mp new
    exact trace.added_table carries member

theorem Applied.tableIDs_after (tableID : Bytes) : tableID ∈ next.tableIDs ↔
      tableID ∈ (tablesAfter primitives executor trace.schemas prev transition).map
        TableManifest.tableID := by
  rw [trace.effect.tables, retiredIDs_eq carries, ReplayJob.addedIDs, carries,
    Option.elim_some, tablesAfter, map_append, mem_append, map_map]
  refine or_congr ?_ Iff.rfl
  simp only [SafeSnapshotManifest.tableIDs, mem_map, mem_filter, decide_eq_true_eq]
  constructor
  · rintro ⟨⟨table, listed, rfl⟩, kept⟩
    exact ⟨table, ⟨listed, kept⟩, rfl⟩
  · rintro ⟨table, ⟨listed, kept⟩, rfl⟩
    exact ⟨⟨table, listed, rfl⟩, kept⟩

/-- The next manifest holds the tables that are left and no others. -/
theorem Applied.tables_after :
    next.tables.Perm ((tablesAfter primitives executor trace.schemas prev transition).map
        normalized) := by
  have placed := trace.effect.placed
  have idsNodup : ((tablesAfter primitives executor trace.schemas prev transition).map
      tableID).Nodup := by
    rw [tablesAfter, map_append, map_map, nodup_append]
    refine ⟨trace.inputs.placed.tablesNodup.sublist (filter_sublist.map _),
      (isCanonical_nodup (trace.ready carries).canonical).2, ?_⟩
    rintro _ before _ new rfl
    obtain ⟨table, listed, rfl⟩ := mem_map.mp before
    obtain ⟨added, member, same⟩ := mem_map.mp new
    change added.tableID = table.tableID at same
    apply (trace.fits carries).adds added member
    rw [same]
    exact mem_map_of_mem (mem_filter.mp listed).1
  have afterNodup : ((tablesAfter primitives executor trace.schemas prev transition).map
      normalized).Nodup := by
    refine Nodup.of_map tableID ?_
    rw [map_map]
    exact idsNodup
  rw [perm_ext_iff_of_nodup placed.tablesNodup.of_map afterNodup]
  intro table
  constructor
  · intro member
    obtain ⟨left, inAfter, same⟩ := mem_map.mp
      ((trace.tableIDs_after carries table.tableID).mp (mem_map_of_mem member))
    have unique := placed.table_unique (trace.mem_tablesAfter carries inAfter) member same
    exact mem_map.mpr ⟨left, inAfter, unique⟩
  · intro member
    obtain ⟨left, inAfter, rfl⟩ := mem_map.mp member
    exact trace.mem_tablesAfter carries inAfter

end Left

/-- A ready transition is accepted exactly when it fits. -/
theorem TransitionReady.accepted_iff (carries : job.tableSetTransition = some transition)
    (ready : TransitionReady primitives executor prev job batches transition schemas) :
    (∃ next result, executor.applyRows primitives prev job batches = .ok (next, result)) ↔
      TransitionFits primitives executor schemas prev transition := by
  obtain ⟨rfl, verified, canonical, resolved, checked⟩ := ready
  have inputs := validateAppendInputs_ok_iff.mp checked
  constructor
  · rintro ⟨next, result, applied⟩
    obtain ⟨trace⟩ := applyRows_ok applied
    cases Except.ok.inj (resolved.symm.trans trace.schemasResolved)
    exact trace.fits carries
  · intro fits
    obtain ⟨ledger, root, opened⟩ :
        ∃ ledger root, executor.openLedger primitives prev job schemas = .ok (ledger, root) := by
      simp only [Executor.openLedger, carries]
      exact ⟨_, _, (applyTableSetTransition_ok_iff canonical).mpr
        ⟨fun id member => mem_ledgerPartsOf.mpr (fits.retires id member),
          fun added member listed => fits.adds added member (mem_ledgerPartsOf.mp listed), rfl, rfl,
          fits.root.trans (schemaRoot_tablesAfter inputs.placed)⟩⟩
    refine applyRows_of_appended (verifyLedger_ok_iff.mp verified) rfl ?_ resolved inputs opened rfl
    simp [checkTransition, carries, canonical]

/--
A job with a transition is accepted exactly when it is ready and the transition
fits.  The next manifest then declares the root of the transition and holds
the tables that are left, added ones empty.
-/
theorem transition_exact
    (primitives : Primitives α)
    (executor : Executor α)
    (prev : SafeSnapshotManifest)
    (job : ReplayJob)
    (batches : List (StatementRows α))
    (transition : ReplayTableSetTransition)
    (carries : job.tableSetTransition = some transition) :
    ((∃ next result, executor.applyRows primitives prev job batches = .ok (next, result)) ↔
      ∃ schemas, TransitionReady primitives executor prev job batches transition schemas ∧
        TransitionFits primitives executor schemas prev transition) ∧
    ∀ next result, executor.applyRows primitives prev job batches = .ok (next, result) →
      ∀ schemas, executor.schemasForJob primitives job = .ok schemas →
        next.schemaRoot = transition.newSchemaRoot ∧
        next.tables.Perm ((tablesAfter primitives executor schemas prev transition).map
            normalized) := by
  refine ⟨⟨?_, ?_⟩, ?_⟩
  · rintro ⟨next, result, applied⟩
    obtain ⟨trace⟩ := applyRows_ok applied
    exact ⟨trace.schemas, trace.ready carries, trace.fits carries⟩
  · rintro ⟨schemas, ready, fits⟩
    exact (ready.accepted_iff carries).mpr fits
  intro next result applied schemas resolved
  obtain ⟨trace⟩ := applyRows_ok applied
  cases Except.ok.inj (resolved.symm.trans trace.schemasResolved)
  obtain ⟨_, _, _, _, declared, _⟩ := trace.transitioned carries
  have given : next.schemaRoot = trace.schemaRoot :=
    congrArg SafeSnapshotManifest.schemaRoot trace.nextEq
  exact ⟨given.trans declared, trace.tables_after carries⟩

end Acceptance

section Example

/-- The executor of the one table, with a table set that may change. -/
def dynamicExecutor : Executor Bytes := newDynamic (ascii "net") none [eventsSchema]

/-- A job that retires tables and leaves none. -/
def retireAll (retires : List Bytes) : ReplayTableSetTransition :=
  { adds := []
    retires := retires
    newSchemaRoot := schemaRootFromHashes flatPrimitives ∅ }

/-- The first block of a chain, with such a transition. -/
def retireBlock (retires : List Bytes) : ReplayJob :=
  { eventsBlock 1 with tableSetTransition := some (retireAll retires) }

/-- The digest of a text is its length. -/
def sizePrimitives : Primitives Bytes :=
  { flatPrimitives with sum256 := fun content => formatUint content.length }

/-- Two tables of one text column, in a table set that may change. -/
def pairExecutor : Executor Bytes :=
  newDynamic (ascii "net") none [eventsSchema, { eventsSchema with tableID := ascii "kept" }]

/-- A job that retires one table, adds another and carries a third. -/
def exchange : ReplayTableSetTransition :=
  let hash (tableID : Bytes) : Bytes :=
    tableSchemaHash sizePrimitives (ascii "net") { eventsSchema with tableID := tableID }
  { adds := [⟨ascii "new", ascii "new"⟩]
    retires := [ascii "events"]
    newSchemaRoot := schemaRootFromHashes sizePrimitives
      ((AList.singleton (ascii "kept") (hash (ascii "kept"))).insert
        (ascii "new") (hash (ascii "new"))) }

/-- The first block of a chain, with the exchange. -/
def exchangeBlock : ReplayJob :=
  { eventsBlock 1 with tableSetTransition := some exchange }

/-- The empty manifest of the two tables. -/
def pairGenesis : SafeSnapshotManifest :=
  pairExecutor.genesisSnapshot sizePrimitives 0 (ascii "schema-1") (ascii "profile-1")

/-- One table goes, one comes and one stays. -/
theorem transition_exact_exchanged :
    ∃ next result, pairExecutor.applyRows sizePrimitives pairGenesis exchangeBlock [] =
        .ok (next, result) ∧
      next.schemaRoot = exchange.newSchemaRoot ∧
      (next.tables.map TableManifest.tableID).Perm [ascii "kept", ascii "new"] := by
  have settled := transition_exact sizePrimitives pairExecutor pairGenesis exchangeBlock []
    exchange rfl
  have accepted :
      (pairExecutor.applyRows sizePrimitives pairGenesis exchangeBlock []).isOk = true := by
    decide +kernel
  cases applied : pairExecutor.applyRows sizePrimitives pairGenesis exchangeBlock [] with
  | error refusal =>
    rw [applied] at accepted
    cases accepted
  | ok returned =>
    obtain ⟨root, tables⟩ := settled.2 _ _ applied _ rfl
    refine ⟨returned.1, returned.2, rfl, root, ?_⟩
    exact (tables.map TableManifest.tableID).trans (.of_eq (by decide +kernel))

/-- A table that is listed twice fits, but the transition is refused. -/
theorem transition_repeated_refused :
    TransitionFits flatPrimitives dynamicExecutor ∅ (eventsGenesis 0)
        (retireAll [ascii "events", ascii "events"]) ∧
      dynamicExecutor.applyRows flatPrimitives (eventsGenesis 0)
        (retireBlock [ascii "events", ascii "events"]) [] = .error .transitionShape := by
  refine ⟨⟨?_, ?_, ?_⟩, ?_⟩
  · decide +kernel
  · intro added member
    cases member
  · decide +kernel
  · rfl

end Example

end HouseGate.Replay
