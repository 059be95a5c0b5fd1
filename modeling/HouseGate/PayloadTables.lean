import HouseGate.PayloadLedger

namespace HouseGate.Replay

open DecimalText LtHash CheckedSteps MapFolds KeyedSort List AList TableManifest Executor ReplayJob
open ReplayTableSetTransition
open SafeSnapshotManifest

/-!
# Opening and rebuilding the tables of a ledger

`ApplyRows` opens the ledger of the previous manifest and, after parts were
appended to it, rebuilds the tables.  Both are specified by the tables,
partitions and entries that they leave.
-/

variable {α : Type} {primitives : Primitives α} {executor : Executor α}
variable {job : ReplayJob}
  {table : TableManifest} {retired added : List Bytes} {new : ReplayTableSchema}
  {partitionID : Bytes} {tableID : Bytes}

section Opening

theorem foldl_appendPart_mem
    (parts : List PartManifestEntry)
    (start : Map (List PartManifestEntry))
    (partitionID : Bytes) :
    partitionID ∈ parts.foldl appendPart start ↔
      partitionID ∈ start ∨ ∃ part ∈ parts, part.partitionID = partitionID :=
  mem_foldl_iff fun _ _ => appendPart_mem

theorem foldl_appendPart_lookup
    (parts : List PartManifestEntry)
    (start : Map (List PartManifestEntry))
    (partitionID : Bytes) :
    ((parts.foldl appendPart start).lookup partitionID).getD [] =
      (start.lookup partitionID).getD [] ++
        parts.filter fun part => part.partitionID == partitionID := by
  induction parts generalizing start with
  | nil => simp
  | cons first rest inductionHypothesis =>
    rw [foldl_cons, inductionHypothesis, appendPart_lookup, append_assoc]
    by_cases same : first.partitionID = partitionID <;> simp [same]

/-- A table opens with its declared partitions and the parts of each. -/
theorem partsByPartition_mem (sound : table.LedgerSound) : partitionID ∈ partsByPartition table ↔
    ∃ commitment ∈ table.partitionRoots, commitment.partitionID = partitionID := by
  rw [partsByPartition, foldl_appendPart_mem, mem_insertAll]
  constructor
  · rintro ((impossible | declared) | ⟨part, member, rfl⟩)
    · simp at impossible
    · exact declared
    · exact sound.declared part member
  · intro declared
    exact .inl (.inr declared)

theorem partsByPartition_lookup (table : TableManifest) (partitionID : Bytes) :
    ((partsByPartition table).lookup partitionID).getD [] = table.partsIn partitionID := by
  have opened : ((insertAll PartitionCommitment.partitionID
      (fun _ => ([] : List PartManifestEntry)) table.partitionRoots
      ∅).lookup partitionID).getD [] = [] := by
    generalize startEq : (∅ : Map (List PartManifestEntry)) = start
    have empty : (start.lookup partitionID).getD [] = [] := by
      rw [← startEq]
      simp
    clear startEq
    induction table.partitionRoots generalizing start with
    | nil => exact empty
    | cons commitment rest inductionHypothesis =>
      apply inductionHypothesis (start.insert commitment.partitionID [])
      by_cases same : partitionID = commitment.partitionID
      · subst same
        simp
      · rw [lookup_insert_ne same]
        exact empty
  rw [partsByPartition, foldl_appendPart_lookup, opened, nil_append]
  rfl

variable {prev : SafeSnapshotManifest}

theorem ledgerPartsOf_lookup (placed : prev.Placed) {byPartition : Map (List PartManifestEntry)} :
    (ledgerPartsOf prev.tables).lookup tableID = some byPartition ↔
      ∃ table ∈ prev.tables, table.tableID = tableID ∧ partsByPartition table = byPartition :=
  lookup_insertAll_eq_some_iff placed.tablesNodup

theorem mem_ledgerPartsOf : tableID ∈ ledgerPartsOf prev.tables ↔ tableID ∈ prev.tableIDs := by
  rw [ledgerPartsOf, mem_insertAll, SafeSnapshotManifest.tableIDs, mem_map]
  simp

/-- A ledger that stands for the content of a manifest. -/
structure Opened
    (prev : SafeSnapshotManifest)
    (retired added : List Bytes)
    (parts : LedgerParts) :
    Prop where
  tables :
    ∀ tableID, tableID ∈ parts ↔ (tableID ∈ prev.tableIDs ∧ tableID ∉ retired) ∨ tableID ∈ added
  partitions : ∀ tableID partitionID, HasPartition parts tableID partitionID ↔
      prev.Declares tableID partitionID ∧ tableID ∉ retired
  entries : ∀ tableID partitionID, entriesAt parts tableID partitionID =
      if tableID ∈ retired then []
      else partsAt prev.parts tableID partitionID

/-- The ledger of a manifest, before anything is retired or added. -/
theorem opened_ledgerPartsOf (placed : prev.Placed) (sound : prev.LedgerSound) :
    Opened prev [] [] (ledgerPartsOf prev.tables) where
  tables := by
    intro tableID
    rw [mem_ledgerPartsOf]
    simp
  partitions := by
    intro tableID partitionID
    rw [placed.declares_iff]
    constructor
    · rintro ⟨byPartition, found, listed⟩
      obtain ⟨table, member, same, rfl⟩ := (ledgerPartsOf_lookup placed).mp found
      exact ⟨⟨table, member, same, (partsByPartition_mem (sound table member)).mp listed⟩, by simp⟩
    · rintro ⟨⟨table, member, same, declared⟩, _⟩
      exact ⟨partsByPartition table, (ledgerPartsOf_lookup placed).mpr ⟨table, member, same, rfl⟩,
        (partsByPartition_mem (sound table member)).mpr declared⟩
  entries := by
    intro tableID partitionID
    rw [if_neg not_mem_nil]
    by_cases listed : tableID ∈ prev.tableIDs
    · obtain ⟨table, member, rfl⟩ := mem_map.mp listed
      have found := (ledgerPartsOf_lookup placed).mpr ⟨table, member, rfl, rfl⟩
      rw [entriesAt, found, Option.bind_some, partsByPartition_lookup, placed.partsAt_parts member]
    · have absent : (ledgerPartsOf prev.tables).lookup tableID = none := by
        rw [ledgerPartsOf, lookup_insertAll_of_notMem listed, lookup_empty]
      rw [entriesAt, absent, placed.partsAt_of_unlisted listed]
      rfl

variable {schemas : Map TableSchema}

/-- The tables that a job retires. -/
def ReplayJob.retiredIDs (job : ReplayJob) : List Bytes := job.tableSetTransition.elim [] retires

/-- The tables that a job adds. -/
def ReplayJob.addedIDs (job : ReplayJob) : List Bytes :=
  job.tableSetTransition.elim [] (fun transition => transition.adds.map ReplayTableSchema.tableID)

theorem retiresOrdered_not_added {retires : List Bytes} {previous : Bytes}
    (ordered : retiresOrdered added previous retires = true) :
    ∀ id ∈ retires, id ∉ added := by
  induction retires generalizing previous with
  | nil => exact forall_mem_nil _
  | cons first rest inductionHypothesis =>
    simp only [retiresOrdered, Bool.and_eq_true, Bool.not_eq_true',
      contains_eq_mem, decide_eq_false_iff_not] at ordered
    obtain ⟨⟨_, firstNew⟩, restOrdered⟩ := ordered
    intro id member
    rcases mem_cons.mp member with rfl | later
    · exact firstNew
    · exact inductionHypothesis restOrdered id later

theorem isCanonical_disjoint
    {transition : ReplayTableSetTransition} (canonical : transition.isCanonical = true) :
    ∀ added ∈ transition.adds, added.tableID ∉ transition.retires := by
  simp only [isCanonical, Bool.and_eq_true] at canonical
  intro added member retired
  exact retiresOrdered_not_added canonical.2 added.tableID retired (mem_map_of_mem member)

/-- An opened ledger with the schema hashes of its tables. -/
structure OpenedLedger
    (prev : SafeSnapshotManifest)
    (retired added : List Bytes)
    (ledger : LedgerState) :
    Prop where
  opened : Opened prev retired added ledger.parts
  hashed : ∀ tableID, tableID ∈ ledger.schemaHashes ↔ tableID ∈ ledger.parts
  hashes : ∀ tableID hash, ledger.schemaHashes.lookup tableID = some hash →
      hash ≠ [] ∨ ∃ table ∈ prev.tables, table.schemaHash = hash

theorem schemaHashesOf_lookup (placed : prev.Placed) {hash : Bytes} :
    (schemaHashesOf prev.tables).lookup tableID = some hash ↔
      ∃ table ∈ prev.tables, table.tableID = tableID ∧ table.schemaHash = hash :=
  lookup_insertAll_eq_some_iff placed.tablesNodup

theorem openedLedger_start (placed : prev.Placed) (sound : prev.LedgerSound) :
    OpenedLedger prev [] []
      { parts := ledgerPartsOf prev.tables
        schemaHashes := schemaHashesOf prev.tables } where
  opened := opened_ledgerPartsOf placed sound
  hashed := by
    intro tableID
    simp only [schemaHashesOf, ledgerPartsOf, mem_insertAll]
    simp
  hashes := by
    intro tableID hash found
    obtain ⟨table, member, _, same⟩ := (schemaHashesOf_lookup placed).mp found
    exact .inr ⟨table, member, same⟩

section Transitions

variable {transition : ReplayTableSetTransition} {previous : Bytes}
variable {ledger after : LedgerState} {adds : List ReplayTableSchema}
  {retires : List Bytes}

theorem retiresOrdered_isChain (ordered : retiresOrdered added previous retires = true) :
    (previous :: retires).IsChain fun left right => textKey left < textKey right := by
  induction retires generalizing previous with
  | nil => exact isChain_singleton _
  | cons first rest inductionHypothesis =>
    simp only [retiresOrdered, Bool.and_eq_true, decide_eq_true_eq] at ordered
    exact isChain_cons_cons.mpr ⟨ordered.1.1.2, inductionHypothesis ordered.2⟩

theorem replayTableSchemasOrdered_isChain
    (ordered : replayTableSchemasOrdered previous adds = true) :
    (previous :: adds.map ReplayTableSchema.tableID).IsChain
      fun left right => textKey left < textKey right := by
  induction adds generalizing previous with
  | nil => exact isChain_singleton _
  | cons first rest inductionHypothesis =>
    simp only [replayTableSchemasOrdered, Bool.and_eq_true, decide_eq_true_eq] at ordered
    exact isChain_cons_cons.mpr ⟨ordered.1.1.2, inductionHypothesis ordered.2⟩

theorem nodup_of_isChain {ids : List Bytes}
    (ascending : (previous :: ids).IsChain fun left right => textKey left < textKey right) :
    ids.Nodup := by
  refine (isChain_iff_pairwise.mp ascending).of_cons.imp ?_
  rintro left _ below rfl
  exact lt_irrefl _ below

/-- A canonical transition lists no table twice. -/
theorem isCanonical_nodup (canonical : transition.isCanonical = true) :
    transition.retires.Nodup ∧ (transition.adds.map ReplayTableSchema.tableID).Nodup := by
  simp only [isCanonical, Bool.and_eq_true] at canonical
  exact ⟨nodup_of_isChain (retiresOrdered_isChain canonical.2),
    nodup_of_isChain (replayTableSchemasOrdered_isChain canonical.1.2)⟩

/-- Tables are retired when all of them are there. -/
theorem retireTables_ok_iff (distinct : retires.Nodup) :
    retires.foldlM retireTable ledger = .ok after ↔ (∀ id ∈ retires, id ∈ ledger.parts) ∧
        after = ⟨eraseAll retires ledger.parts, eraseAll retires ledger.schemaHashes⟩ := by
  induction retires generalizing ledger with
  | nil => simp [eraseAll, pure, Except.pure, eq_comm]
  | cons id rest inductionHypothesis =>
    obtain ⟨fresh, distinctRest⟩ := nodup_cons.mp distinct
    rw [foldlM_cons, bind_eq_ok_iff]
    simp only [retireTable, guard_eq_ok_iff, ← not_mem_iff_lookup, not_not]
    constructor
    · rintro ⟨_, ⟨present, ⟨⟩⟩, rested⟩
      obtain ⟨others, rfl⟩ := (inductionHypothesis distinctRest).mp rested
      refine ⟨forall_mem_cons.mpr ⟨present, ?_⟩, rfl⟩
      intro other member
      exact (AList.mem_erase.mp (others other member)).2
    · rintro ⟨every, rfl⟩
      obtain ⟨present, others⟩ := forall_mem_cons.mp every
      refine ⟨_, ⟨present, rfl⟩, (inductionHypothesis distinctRest).mpr ⟨?_, rfl⟩⟩
      intro other member
      exact AList.mem_erase.mpr ⟨ne_of_mem_of_not_mem member fresh, others other member⟩

/-- The schema hash that a table is added with. -/
def addedHash (primitives : Primitives α) (executor : Executor α) (schemas : Map TableSchema)
    (added : ReplayTableSchema) : Bytes :=
  tableSchemaHash primitives executor.networkID
    ((schemas.lookup added.tableID).getD TableSchema.zero)

/-- Tables are added when none of them is there. -/
theorem addTables_ok_iff (distinct : (adds.map ReplayTableSchema.tableID).Nodup) :
    adds.foldlM (executor.addTable primitives schemas) ledger = .ok after ↔
      (∀ added ∈ adds, added.tableID ∉ ledger.parts) ∧
        after = ⟨insertAll ReplayTableSchema.tableID (fun _ => ∅) adds ledger.parts,
          insertAll ReplayTableSchema.tableID (addedHash primitives executor schemas) adds
            ledger.schemaHashes⟩ := by
  induction adds generalizing ledger with
  | nil => simp [insertAll, pure, Except.pure, eq_comm]
  | cons added rest inductionHypothesis =>
    rw [map_cons, nodup_cons] at distinct
    rw [foldlM_cons, bind_eq_ok_iff]
    simp only [addTable, guard_eq_ok_iff, ← not_mem_iff_lookup, ne_eq, not_not]
    constructor
    · rintro ⟨_, ⟨absent, ⟨⟩⟩, rested⟩
      obtain ⟨others, rfl⟩ := (inductionHypothesis distinct.2).mp rested
      refine ⟨forall_mem_cons.mpr ⟨absent, ?_⟩, rfl⟩
      intro other member listed
      exact others other member ((AList.mem_insert _).mpr (.inr listed))
    · rintro ⟨every, rfl⟩
      obtain ⟨absent, others⟩ := forall_mem_cons.mp every
      refine ⟨_, ⟨absent, rfl⟩, (inductionHypothesis distinct.2).mpr ⟨?_, rfl⟩⟩
      intro other member listed
      rcases (AList.mem_insert _).mp listed with same | before
      · exact distinct.1 (same ▸ mem_map_of_mem member)
      · exact others other member before

/-- A transition of a canonical shape fits the tables it is applied to. -/
theorem applyTableSetTransition_ok_iff {root : Bytes} (canonical : transition.isCanonical = true) :
    executor.applyTableSetTransition primitives transition schemas ledger = .ok (after, root) ↔
      (∀ id ∈ transition.retires, id ∈ ledger.parts) ∧
      (∀ added ∈ transition.adds, added.tableID ∉ ledger.parts) ∧
      after = ⟨insertAll ReplayTableSchema.tableID (fun _ => ∅) transition.adds
          (eraseAll transition.retires ledger.parts),
        insertAll ReplayTableSchema.tableID (addedHash primitives executor schemas)
          transition.adds (eraseAll transition.retires ledger.schemaHashes)⟩ ∧
      root = transition.newSchemaRoot ∧
      root = schemaRootFromHashes primitives after.schemaHashes := by
  have disjoint := isCanonical_disjoint canonical
  obtain ⟨retiresNodup, addsNodup⟩ := isCanonical_nodup canonical
  have kept : ∀ added ∈ transition.adds, (added.tableID ∉ eraseAll transition.retires ledger.parts ↔
        added.tableID ∉ ledger.parts) := by
    intro added member
    rw [not_mem_iff_lookup, not_mem_iff_lookup, lookup_eraseAll, if_neg (disjoint added member)]
  simp only [applyTableSetTransition, bind_eq_ok_iff, guard_eq_ok_iff,
    retireTables_ok_iff retiresNodup, addTables_ok_iff addsNodup, ne_eq, not_not,
    Except.ok.injEq, Prod.mk.injEq]
  constructor
  · rintro ⟨_, ⟨present, rfl⟩, _, ⟨absent, rfl⟩, rootEq, rfl, rfl⟩
    exact ⟨present, fun added member => (kept added member).mp (absent added member), rfl, rootEq,
      rfl⟩
  · rintro ⟨present, absent, rfl, rootEq, rfl⟩
    exact ⟨_, ⟨present, rfl⟩, _,
      ⟨fun added member => (kept added member).mpr (absent added member), rfl⟩, rootEq, rfl, rfl⟩

/-- What a transition leaves under a table: a new value, nothing, or what was there. -/
theorem lookup_transitioned
    {β : Type}
    (distinct : (adds.map ReplayTableSchema.tableID).Nodup)
    (value : ReplayTableSchema → β)
    (retires : List Bytes)
    (start : Map β)
    (tableID : Bytes) :
    let found := (insertAll ReplayTableSchema.tableID value adds
      (eraseAll retires start)).lookup tableID
    (∃ added ∈ adds, added.tableID = tableID ∧ found = some (value added)) ∨
      (tableID ∈ retires ∧ found = none) ∨ (tableID ∉ retires ∧ found = start.lookup tableID) := by
  intro found
  subst found
  by_cases new : tableID ∈ adds.map ReplayTableSchema.tableID
  · obtain ⟨added, member, rfl⟩ := mem_map.mp new
    exact .inl ⟨added, member, rfl, lookup_insertAll_of_mem distinct member⟩
  · rw [lookup_insertAll_of_notMem new, lookup_eraseAll]
    split_ifs with gone
    · exact .inr (.inl ⟨gone, rfl⟩)
    · exact .inr (.inr ⟨gone, rfl⟩)

/-- A transition removes the retired tables and adds new ones without partitions. -/
theorem OpenedLedger.change (placed : prev.Placed) (start : OpenedLedger prev [] [] ledger)
    (distinct : (adds.map ReplayTableSchema.tableID).Nodup)
    (absent : ∀ added ∈ adds, added.tableID ∉ ledger.parts) :
    OpenedLedger prev retires (adds.map ReplayTableSchema.tableID)
      ⟨insertAll ReplayTableSchema.tableID (fun _ => ∅) adds (eraseAll retires ledger.parts),
        insertAll ReplayTableSchema.tableID (addedHash primitives executor schemas) adds
          (eraseAll retires ledger.schemaHashes)⟩ := by
  have fresh : ∀ added ∈ adds, added.tableID ∉ prev.tableIDs := by
    intro added member listed
    exact absent added member ((start.opened.tables _).mpr (.inl ⟨listed, not_mem_nil⟩))
  have looked := lookup_transitioned distinct (fun _ => (∅ : Map (List PartManifestEntry))) retires
    ledger.parts
  refine ⟨⟨?_, ?_, ?_⟩, ?_, ?_⟩
  · intro tableID
    rw [mem_insertAll, mem_eraseAll, start.opened.tables]
    simp
  · intro tableID partitionID
    have before := start.opened.partitions tableID partitionID
    rcases looked tableID with ⟨added, member, rfl, found⟩ | ⟨gone, found⟩ | ⟨kept, found⟩
    · have undeclared : ¬prev.Declares added.tableID partitionID := by
        intro declared
        obtain ⟨table, listed, named, _⟩ := placed.declares_iff.mp declared
        exact fresh added member (named ▸ mem_map_of_mem listed)
      simp [hasPartition_of_lookup found, undeclared]
    · simp [HasPartition, found, gone]
    · simpa [HasPartition, found, kept] using before
  · intro tableID partitionID
    have before := start.opened.entries tableID partitionID
    rcases looked tableID with ⟨added, member, rfl, found⟩ | ⟨gone, found⟩ | ⟨kept, found⟩
    · rw [placed.partsAt_of_unlisted (fresh added member), entriesAt_of_lookup found]
      simp
    · simp [entriesAt, found, gone]
    · simpa [entriesAt, found, kept] using before
  · intro tableID
    rw [mem_insertAll, mem_insertAll, mem_eraseAll, mem_eraseAll, start.hashed]
  · intro tableID hash hashed
    rcases lookup_transitioned distinct (addedHash primitives executor schemas) retires
      ledger.schemaHashes tableID with ⟨added, member, rfl, found⟩ | ⟨gone, found⟩ | ⟨kept, found⟩
    · cases hashed.symm.trans found
      exact .inl (digestBytes_ne_nil _ _)
    · cases hashed.symm.trans found
    · exact start.hashes tableID hash (found.symm.trans hashed)

end Transitions

/-- The ledger that a block starts from, and its schema root. -/
theorem openLedger_ok
    {batches : List (StatementRows α)}
    {ledger : LedgerState}
    {root : Bytes}
    (placed : prev.Placed)
    (sound : prev.LedgerSound)
    (checked : checkTransition job batches = .ok ())
    (opened : executor.openLedger primitives prev job schemas = .ok (ledger, root)) :
    OpenedLedger prev job.retiredIDs job.addedIDs ledger ∧
    ((job.tableSetTransition = none ∧ root = prev.schemaRoot ∧
        ledger.schemaHashes = schemaHashesOf prev.tables) ∨
      (∃ transition, job.tableSetTransition = some transition ∧ root = transition.newSchemaRoot ∧
        root = schemaRootFromHashes primitives ledger.schemaHashes)) := by
  cases transitionEq : job.tableSetTransition with
  | none =>
    simp only [openLedger, transitionEq, Except.ok.injEq, Prod.mk.injEq] at opened
    obtain ⟨rfl, rfl⟩ := opened
    have noRetires : job.retiredIDs = [] := by
      simp [retiredIDs, transitionEq]
    have noAdds : job.addedIDs = [] := by
      simp [addedIDs, transitionEq]
    rw [noRetires, noAdds]
    exact ⟨openedLedger_start placed sound, .inl ⟨rfl, rfl, rfl⟩⟩
  | some transition =>
    simp only [checkTransition, transitionEq, guard_eq_ok_iff, Bool.not_eq_false] at checked
    simp only [openLedger, transitionEq] at opened
    obtain ⟨_, absent, rfl, declared, derived⟩ :=
      (applyTableSetTransition_ok_iff checked.2.1).mp opened
    have start := openedLedger_start placed sound
    have retires : job.retiredIDs = transition.retires := by
      simp [retiredIDs, transitionEq]
    have adds : job.addedIDs = transition.adds.map ReplayTableSchema.tableID := by
      simp [addedIDs, transitionEq]
    rw [retires, adds]
    exact ⟨start.change placed (isCanonical_nodup checked.2.1).2 absent,
      .inr ⟨transition, rfl, declared, derived⟩⟩

end Opening

variable {partition : Σ _ : Bytes, List PartManifestEntry}

section Rebuilding

/-- The accumulator of a partition is the sum of its entries. -/
theorem foldlM_addEntryHash_ok_iff {entries : List PartManifestEntry} {start acc : Hash} :
    entries.foldlM addEntryHash start = .ok acc ↔
      (∀ part ∈ entries, (lthashFromHex part.partRowLtHash).isSome) ∧
        acc = start + hashSum entries := by
  induction entries generalizing start with
  | nil =>
    rw [foldlM_nil, hashSum_nil, add_zero]
    constructor
    · intro same
      cases same
      exact ⟨forall_mem_nil _, rfl⟩
    · rintro ⟨_, rfl⟩
      rfl
  | cons first rest inductionHypothesis =>
    rw [foldlM_cons, bind_eq_ok_iff]
    cases decoded : lthashFromHex first.partRowLtHash with
    | none => simp [addEntryHash, decoded]
    | some hash =>
      have own : partHash first = hash := by
        simp [partHash, decoded]
      have split : hashSum (first :: rest) = hash + hashSum rest := by
        simp [hashSum, own]
      simp [addEntryHash, decoded, Except.ok.injEq, inductionHypothesis, split, Option.isSome_some,
        add_assoc]

def rebuiltCommitment (tableID : Bytes) (partition : Σ _ : Bytes, List PartManifestEntry) :
    PartitionCommitment :=
  { tableID := tableID
    partitionID := partition.1
    root := lthashHex (hashSum partition.2) }

/-- The table that is rebuilt when every entry decodes. -/
def rebuiltTable (schemaHashes : Map Bytes) (table : Σ _ : Bytes, Map (List PartManifestEntry)) :
    TableManifest :=
  { tableID := table.1
    schemaHash := (schemaHashes.lookup table.1).getD []
    partitionRoots := table.2.entries.map (rebuiltCommitment table.1)
    activeParts := table.2.entries.flatMap fun partition => partition.2 }

theorem rebuildPartition_ok_iff {commitment : PartitionCommitment} :
    rebuildPartition tableID partition = .ok commitment ↔ (∀ part ∈ partition.2,
        (lthashFromHex part.partRowLtHash).isSome) ∧
        commitment = rebuiltCommitment tableID partition := by
  simp only [rebuildPartition, bind_eq_ok_iff, foldlM_addEntryHash_ok_iff, zero_add]
  constructor
  · rintro ⟨acc, ⟨decodes, rfl⟩, returned⟩
    cases returned
    exact ⟨decodes, rfl⟩
  · rintro ⟨decodes, rfl⟩
    exact ⟨_, ⟨decodes, rfl⟩, rfl⟩

theorem rebuildTable_ok_iff
    {schemaHashes : Map Bytes} {table : Σ _ : Bytes, Map (List PartManifestEntry)}
    {manifest : TableManifest} :
    rebuildTable schemaHashes table = .ok manifest ↔
      (∀ partition ∈ table.2.entries, ∀ part ∈ partition.2,
        (lthashFromHex part.partRowLtHash).isSome) ∧
        manifest = rebuiltTable schemaHashes table := by
  simp only [rebuildTable, bind_eq_ok_iff, mapM_eq_ok_map_iff (fun _ _ => rebuildPartition_ok_iff)]
  constructor
  · rintro ⟨roots, ⟨decodes, rfl⟩, returned⟩
    cases returned
    exact ⟨decodes, rfl⟩
  · rintro ⟨decodes, rfl⟩
    exact ⟨_, ⟨decodes, rfl⟩, rfl⟩

theorem rebuildTables_ok_iff
    {schemaHashes : Map Bytes}
    {parts : LedgerParts}
    {tables : List TableManifest} :
    rebuildTables schemaHashes parts = .ok tables ↔
      (∀ table ∈ parts.entries, ∀ partition ∈ table.2.entries, ∀ part ∈ partition.2,
          (lthashFromHex part.partRowLtHash).isSome) ∧
        tables = parts.entries.map (rebuiltTable schemaHashes) :=
  mapM_eq_ok_map_iff (fun _ _ => rebuildTable_ok_iff)

/-- Every entry stands under its own table and partition. -/
structure EntriesPlaced (parts : LedgerParts) : Prop where
  tables : ∀ tableID ∈ parts, tableID ≠ []
  partitions : ∀ tableID partitionID, HasPartition parts tableID partitionID → partitionID ≠ []
  entries : ∀ tableID partitionID, ∀ part ∈ entriesAt parts tableID partitionID,
      part.tableID = tableID ∧ part.partitionID = partitionID ∧
        part.partName ≠ [] ∧ (lthashFromHex part.partRowLtHash).isSome

section Table

variable {parts : LedgerParts} {schemaHashes : Map Bytes}
variable {byPartition : Map (List PartManifestEntry)}
  (placed : EntriesPlaced parts)

include placed

variable (found : parts.lookup tableID = some byPartition)

include found

theorem EntriesPlaced.entry (listed : partition ∈ byPartition.entries) :
    partition.1 ≠ [] ∧
    ∀ part ∈ partition.2, part.tableID = tableID ∧ part.partitionID = partition.1 ∧
        part.partName ≠ [] ∧ (lthashFromHex part.partRowLtHash).isSome := by
  obtain ⟨partitionID, entries⟩ := partition
  have lookedUp : byPartition.lookup partitionID = some entries := mem_lookup_iff.mpr listed
  have here : entriesAt parts tableID partitionID = entries := by
    simp [entriesAt, found, lookedUp]
  constructor
  · exact placed.partitions tableID partitionID
      ⟨byPartition, found, mem_iff_lookup.mpr ⟨entries, lookedUp⟩⟩
  · intro part member
    exact placed.entries tableID partitionID part (here ▸ member)

/-- The rebuilt parts of a partition are its entries. -/
theorem rebuiltTable_partsIn (partitionID : Bytes) :
    (rebuiltTable schemaHashes ⟨tableID, byPartition⟩).partsIn partitionID =
      entriesAt parts tableID partitionID := by
  have here : entriesAt parts tableID partitionID = (byPartition.lookup partitionID).getD [] := by
    simp [entriesAt, found]
  rw [here]
  cases lookedUp : byPartition.lookup partitionID with
  | none =>
    rw [Option.getD_none, partsIn, filter_eq_nil_iff]
    intro part member
    obtain ⟨partition, listed, inPartition⟩ := mem_flatMap.mp member
    have own := (placed.entry found listed).2 part inPartition
    have different : partition.1 ≠ partitionID := by
      rintro rfl
      have present := mem_lookup_iff.mpr listed
      rw [lookedUp] at present
      cases present
    simp [own.2.1, different]
  | some entries =>
    have listed : ⟨partitionID, entries⟩ ∈ byPartition.entries := mem_lookup_iff.mp lookedUp
    have gathered : (byPartition.entries.flatMap fun partition => partition.2).filter
        (fun part => part.partitionID == partitionID) =
          entries.filter (fun part => part.partitionID == partitionID) := by
      refine filter_flatMap_eq byPartition.nodupKeys.nodup listed ?_
      intro other otherListed different part member
      have own := (placed.entry found otherListed).2 part member
      have apart : other.1 ≠ partitionID := by
        intro same
        exact different (byPartition.nodupKeys.eq_of_fst_eq otherListed listed same)
      simp [own.2.1, apart]
    rw [Option.getD_some, partsIn]
    refine gathered.trans ?_
    rw [filter_eq_self]
    intro part member
    simp [((placed.entry found listed).2 part member).2.1]

theorem rebuiltTable_placed : (rebuiltTable schemaHashes ⟨tableID, byPartition⟩).Placed where
  tableID := placed.tables tableID (mem_iff_lookup.mpr ⟨_, found⟩)
  partitions := by
    intro commitment member
    obtain ⟨partition, listed, rfl⟩ := mem_map.mp member
    exact ⟨rfl, (placed.entry found listed).1⟩
  partitionsNodup := by
    simp only [rebuiltTable, map_map]
    exact byPartition.keys_nodup
  parts := by
    intro part member
    obtain ⟨partition, listed, inPartition⟩ := mem_flatMap.mp member
    obtain ⟨nonempty, own⟩ := placed.entry found listed
    obtain ⟨sameTable, samePartition, named, _⟩ := own part inPartition
    exact ⟨sameTable, named, samePartition ▸ nonempty⟩

theorem rebuiltTable_sound : (rebuiltTable schemaHashes ⟨tableID, byPartition⟩).LedgerSound where
  decodes := by
    intro part member
    obtain ⟨partition, listed, inPartition⟩ := mem_flatMap.mp member
    exact ((placed.entry found listed).2 part inPartition).2.2.2
  roots := by
    intro commitment member
    obtain ⟨⟨partitionID, entries⟩, listed, rfl⟩ := mem_map.mp member
    have lookedUp : byPartition.lookup partitionID = some entries := mem_lookup_iff.mpr listed
    have here : entriesAt parts tableID partitionID = entries := by
      simp [entriesAt, found, lookedUp]
    change lthashHex (hashSum entries) =
      lthashHex (hashSum ((rebuiltTable schemaHashes ⟨tableID, byPartition⟩).partsIn partitionID))
    rw [rebuiltTable_partsIn placed found, here]
  declared := by
    intro part member
    obtain ⟨partition, listed, inPartition⟩ := mem_flatMap.mp member
    have own := (placed.entry found listed).2 part inPartition
    exact ⟨rebuiltCommitment tableID partition, mem_map_of_mem listed, own.2.1.symm⟩

end Table

/-- Sorting the listings of a table keeps it placed. -/
theorem TableManifest.Placed.normalized (placed : table.Placed) : table.normalized.Placed where
  tableID := placed.tableID
  partitions := by
    intro commitment member
    exact placed.partitions commitment (mem_normalized_partitionRoots.mp member)
  partitionsNodup := nodup_map_sortBy.mpr placed.partitionsNodup
  parts := by
    intro part member
    exact placed.parts part (mem_normalized_activeParts.mp member)

theorem TableManifest.normalized_partsIn_perm (table : TableManifest) (partitionID : Bytes) :
    (table.normalized.partsIn partitionID).Perm (table.partsIn partitionID) :=
  (sortBy_perm _ _).filter _

theorem TableManifest.LedgerSound.normalized (sound : table.LedgerSound) :
    table.normalized.LedgerSound where
  decodes := by
    intro part member
    exact sound.decodes part (mem_normalized_activeParts.mp member)
  roots := by
    intro commitment member
    rw [hashSum_of_perm (table.normalized_partsIn_perm _)]
    exact sound.roots commitment (mem_normalized_partitionRoots.mp member)
  declared := by
    intro part member
    obtain ⟨commitment, listed, same⟩ := sound.declared part (mem_normalized_activeParts.mp member)
    exact ⟨commitment, mem_normalized_partitionRoots.mpr listed, same⟩

end Rebuilding

section Next

/-- A manifest whose tables are the rebuilt ones. -/
structure RebuiltFrom
    (schemaHashes : Map Bytes)
    (parts : LedgerParts)
    (next : SafeSnapshotManifest) :
    Prop where
  tables : ∀ table, table ∈ next.tables ↔
      ∃ tableID byPartition, parts.lookup tableID = some byPartition ∧
        (rebuiltTable schemaHashes ⟨tableID, byPartition⟩).normalized = table
  tablesNodup : next.tableIDs.Nodup

theorem rebuiltFrom_nextManifest
    (prev : SafeSnapshotManifest)
    (blockSeq : UInt64)
    (root : Bytes)
    (schemaHashes : Map Bytes)
    (parts : LedgerParts) :
    RebuiltFrom schemaHashes parts (nextManifest primitives prev blockSeq root
        (parts.entries.map (rebuiltTable schemaHashes))) where
  tables := by
    intro table
    rw [nextManifest, seal_tables, mem_normalized_tables]
    constructor
    · rintro ⟨listed, member, rfl⟩
      obtain ⟨⟨tableID, byPartition⟩, entry, rfl⟩ := mem_map.mp member
      exact ⟨tableID, byPartition, mem_lookup_iff.mpr entry, rfl⟩
    · rintro ⟨tableID, byPartition, found, rfl⟩
      exact ⟨_, mem_map_of_mem (mem_lookup_iff.mp found), rfl⟩
  tablesNodup := by
    rw [nextManifest, SafeSnapshotManifest.tableIDs,
      SafeSnapshotManifest.seal_tables, SafeSnapshotManifest.normalized,
      nodup_map_sortBy, map_map, map_map]
    exact parts.keys_nodup

variable {schemaHashes : Map Bytes} {parts : LedgerParts}
variable {next : SafeSnapshotManifest}
  (rebuilt : RebuiltFrom schemaHashes parts next)

include rebuilt

variable (entriesPlaced : EntriesPlaced parts)

include entriesPlaced

theorem RebuiltFrom.placed : next.Placed where
  tables := by
    intro table member
    obtain ⟨tableID, byPartition, found, rfl⟩ := (rebuilt.tables table).mp member
    exact (rebuiltTable_placed entriesPlaced found).normalized
  tablesNodup := rebuilt.tablesNodup

theorem RebuiltFrom.ledgerSound : next.LedgerSound := by
  intro table member
  obtain ⟨tableID, byPartition, found, rfl⟩ := (rebuilt.tables table).mp member
  exact (rebuiltTable_sound entriesPlaced found).normalized

omit entriesPlaced in
theorem RebuiltFrom.mem_tableIDs : tableID ∈ next.tableIDs ↔ tableID ∈ parts := by
  rw [tableIDs, mem_map, mem_iff_lookup]
  constructor
  · rintro ⟨table, member, rfl⟩
    obtain ⟨tableID, byPartition, found, rfl⟩ := (rebuilt.tables table).mp member
    exact ⟨byPartition, found⟩
  · rintro ⟨byPartition, found⟩
    exact ⟨_, (rebuilt.tables _).mpr ⟨tableID, byPartition, found, rfl⟩, rfl⟩

theorem RebuiltFrom.declares_iff :
    next.Declares tableID partitionID ↔ HasPartition parts tableID partitionID := by
  rw [(rebuilt.placed entriesPlaced).declares_iff]
  constructor
  · rintro ⟨table, member, rfl, commitment, inTable, rfl⟩
    obtain ⟨tableID, byPartition, found, rfl⟩ := (rebuilt.tables table).mp member
    have listed := mem_normalized_partitionRoots.mp inTable
    obtain ⟨partition, inMap, rfl⟩ := mem_map.mp listed
    exact ⟨byPartition, found, mem_iff_lookup.mpr ⟨partition.2, mem_lookup_iff.mpr inMap⟩⟩
  · rintro ⟨byPartition, found, listed⟩
    obtain ⟨entries, lookedUp⟩ := mem_iff_lookup.mp listed
    refine ⟨_, (rebuilt.tables _).mpr ⟨tableID, byPartition, found, rfl⟩,
      rfl, rebuiltCommitment tableID ⟨partitionID, entries⟩, ?_, rfl⟩
    apply mem_normalized_partitionRoots.mpr
    exact mem_map_of_mem (mem_lookup_iff.mp lookedUp)

theorem RebuiltFrom.partsAt_perm (tableID partitionID : Bytes) :
    (partsAt next.parts tableID partitionID).Perm (entriesAt parts tableID partitionID) := by
  have placed := rebuilt.placed entriesPlaced
  cases found : parts.lookup tableID with
  | none =>
    have unlisted : tableID ∉ next.tableIDs := by
      rw [rebuilt.mem_tableIDs, not_mem_iff_lookup]
      exact found
    rw [placed.partsAt_of_unlisted unlisted]
    simp [entriesAt, found]
  | some byPartition =>
    have listed := (rebuilt.tables _).mpr ⟨tableID, byPartition, found, rfl⟩
    have own := placed.partsAt_parts listed partitionID
    rw [← rebuiltTable_partsIn entriesPlaced found]
    exact own ▸ normalized_partsIn_perm _ partitionID

end Next

end HouseGate.Replay
