import HouseGate.PayloadParts

namespace HouseGate.Replay

open DecimalText LtHash CheckedSteps MapFolds List TableManifest

/-!
# The ledger of a manifest

The content of a manifest is a set of tables and, for every partition of a
table, the sum of the hashes of its parts.  The ledger check says that every
declared root is that sum.  A block retires and adds tables, appends parts, and
recomputes the roots; its effect is stated on the content alone.
-/

section Content

variable (manifest : SafeSnapshotManifest)

def SafeSnapshotManifest.tableIDs : List Bytes :=
  manifest.tables.map tableID

def SafeSnapshotManifest.commitments : List PartitionCommitment :=
  manifest.tables.flatMap partitionRoots

def SafeSnapshotManifest.parts : List PartManifestEntry :=
  manifest.tables.flatMap activeParts

/-- The hash that a part entry holds. -/
def partHash (part : PartManifestEntry) : Hash := (lthashFromHex part.partRowLtHash).getD 0

def hashSum (parts : List PartManifestEntry) : Hash := (parts.map partHash).sum

@[simp] theorem hashSum_nil : hashSum [] = 0 :=
  rfl

@[simp] theorem hashSum_append (first second : List PartManifestEntry) :
    hashSum (first ++ second) = hashSum first + hashSum second := by
  simp [hashSum]

theorem hashSum_of_perm {first second : List PartManifestEntry} (same : first.Perm second) :
    hashSum first = hashSum second :=
  (same.map partHash).sum_eq

/-- The sum of the parts of one partition. -/
def SafeSnapshotManifest.accumulated (tableID partitionID : Bytes) : Hash :=
  hashSum (partsAt manifest.parts tableID partitionID)

def SafeSnapshotManifest.Declares (tableID partitionID : Bytes) : Prop :=
  ∃ commitment ∈ manifest.commitments,
    commitment.tableID = tableID ∧ commitment.partitionID = partitionID

variable (table : TableManifest)

/-- The listings of one table carry its own id, and no partition twice. -/
structure TableManifest.Placed : Prop where
  tableID : table.tableID ≠ []
  partitions : ∀ commitment ∈ table.partitionRoots,
      commitment.tableID = table.tableID ∧ commitment.partitionID ≠ []
  partitionsNodup : (table.partitionRoots.map PartitionCommitment.partitionID).Nodup
  parts : ∀ part ∈ table.activeParts,
      part.tableID = table.tableID ∧ part.partName ≠ [] ∧ part.partitionID ≠ []

/-- Every table is well placed, and no table is listed twice. -/
structure SafeSnapshotManifest.Placed : Prop where
  tables : ∀ table ∈ manifest.tables, table.Placed
  tablesNodup : manifest.tableIDs.Nodup

/-- The parts of a table in one of its partitions. -/
def TableManifest.partsIn (partitionID : Bytes) : List PartManifestEntry :=
  table.activeParts.filter fun part => part.partitionID == partitionID

/-- What the ledger check says of one table. -/
structure TableManifest.LedgerSound : Prop where
  decodes : ∀ part ∈ table.activeParts, (lthashFromHex part.partRowLtHash).isSome
  roots : ∀ commitment ∈ table.partitionRoots,
      commitment.root = lthashHex (hashSum (table.partsIn commitment.partitionID))
  declared : ∀ part ∈ table.activeParts, ∃ commitment ∈ table.partitionRoots,
      commitment.partitionID = part.partitionID

def SafeSnapshotManifest.LedgerSound : Prop :=
  ∀ table ∈ manifest.tables, table.LedgerSound

end Content

variable {sums : Map Hash} {table : TableManifest}

section LedgerCheck

/-- The sums of the parts that are read already. -/
structure Summed (parts : List PartManifestEntry) (sums : Map Hash) : Prop where
  decodes : ∀ part ∈ parts, (lthashFromHex part.partRowLtHash).isSome
  mem : ∀ partitionID, partitionID ∈ sums ↔ ∃ part ∈ parts, part.partitionID = partitionID
  value : ∀ partitionID, (sums.lookup partitionID).getD 0 =
      hashSum (parts.filter fun part => part.partitionID == partitionID)

theorem summed_empty : Summed [] ∅ where
  decodes := forall_mem_nil _
  mem := by
    intro partitionID
    simp
  value := by
    intro partitionID
    simp

variable {parts : List PartManifestEntry}

theorem Summed.addPartHash
    {after : Map Hash}
    {part : PartManifestEntry}
    (summed : Summed parts sums)
    (stepped : Replay.addPartHash sums part = .ok after) :
    Summed (parts ++ [part]) after := by
  unfold Replay.addPartHash at stepped
  cases decoded : lthashFromHex part.partRowLtHash with
  | none => simp [decoded] at stepped
  | some hash =>
    simp only [decoded, Except.ok.injEq] at stepped
    subst stepped
    have own : partHash part = hash := by
      simp [partHash, decoded]
    refine ⟨?_, ?_, ?_⟩
    · intro other member
      rcases mem_append.mp member with earlier | last
      · exact summed.decodes other earlier
      · rw [mem_singleton.mp last, decoded]
        rfl
    · intro partitionID
      rw [AList.mem_insert, summed.mem]
      constructor
      · rintro (rfl | ⟨other, member, same⟩)
        · exact ⟨part, by simp, rfl⟩
        · exact ⟨other, mem_append_left _ member, same⟩
      rintro ⟨other, member, same⟩
      rcases mem_append.mp member with earlier | last
      · exact .inr ⟨other, earlier, same⟩
      · rw [mem_singleton.mp last] at same
        exact .inl same.symm
    · intro partitionID
      rw [filter_append, hashSum_append, ← summed.value]
      by_cases same : partitionID = part.partitionID
      · subst same
        simp [hashSum, own]
      · rw [AList.lookup_insert_ne same]
        simp [Ne.symm same]

theorem summed_of_ok (folded : parts.foldlM addPartHash ∅ = .ok sums) : Summed parts sums :=
  foldlM_processed Summed (fun _ _ _ _ _ stepped before => before.addPartHash stepped)
    folded summed_empty

theorem sums_exist (decodes : ∀ part ∈ parts, (lthashFromHex part.partRowLtHash).isSome) :
    ∃ sums, parts.foldlM addPartHash ∅ = .ok sums := by
  have total : ∀ part ∈ parts, ∀ before : Map Hash, True →
      ∃ after, addPartHash before part = .ok after ∧ True := by
    intro part member before _
    obtain ⟨hash, decoded⟩ := Option.isSome_iff_exists.mp (decodes part member)
    exact ⟨_, by rw [addPartHash, decoded], trivial⟩
  obtain ⟨sums, folded, _⟩ := foldlM_total (fun _ => True) total trivial
  exact ⟨sums, folded⟩

theorem Summed.rootsAreSums_iff (summed : Summed table.activeParts sums) :
    table.rootsAreSums sums = true ↔ ∀ commitment ∈ table.partitionRoots,
        commitment.root = lthashHex (hashSum (table.partsIn commitment.partitionID)) := by
  simp only [rootsAreSums, all_eq_true, decide_eq_true_eq, summed.value]
  constructor
  · intro every commitment member
    exact (every commitment member).symm
  · intro every commitment member
    exact (every commitment member).symm

theorem Summed.declaresAll_iff (summed : Summed table.activeParts sums) :
    table.declaresAll sums = true ↔ ∀ part ∈ table.activeParts, ∃ commitment ∈ table.partitionRoots,
        commitment.partitionID = part.partitionID := by
  simp only [declaresAll, all_eq_true, any_eq_true, beq_iff_eq, ← AList.mem_keys, summed.mem]
  constructor
  · intro every part member
    exact every part.partitionID ⟨part, member, rfl⟩
  · rintro every _ ⟨part, member, rfl⟩
    exact every part member

theorem verifyTableLedger_ok_iff {table : TableManifest} :
    verifyTableLedger table = .ok () ↔ table.LedgerSound := by
  simp only [verifyTableLedger, bind_eq_ok_iff, guard_eq_ok_iff, Bool.not_eq_false, and_true]
  constructor
  · rintro ⟨sums, folded, rootsChecked, declaresChecked⟩
    have summed := summed_of_ok folded
    exact ⟨summed.decodes, summed.rootsAreSums_iff.mp rootsChecked,
      summed.declaresAll_iff.mp declaresChecked⟩
  · intro sound
    obtain ⟨sums, folded⟩ := sums_exist sound.decodes
    have summed := summed_of_ok folded
    exact ⟨sums, folded, summed.rootsAreSums_iff.mpr sound.roots,
      summed.declaresAll_iff.mpr sound.declared⟩

theorem verifyLedger_ok_iff {manifest : SafeSnapshotManifest} :
    verifyLedger manifest = .ok () ↔ manifest.LedgerSound := by
  rw [verifyLedger, checkEach_eq_ok_iff]
  constructor
  · intro every table member
    exact verifyTableLedger_ok_iff.mp (every table member)
  · intro sound table member
    exact verifyTableLedger_ok_iff.mpr (sound table member)

end LedgerCheck

section Listings

variable {manifest : SafeSnapshotManifest}
  (placed : manifest.Placed)

include placed

/-- A listed table is the only one with its id. -/
theorem SafeSnapshotManifest.Placed.table_unique {first second : TableManifest}
    (firstListed : first ∈ manifest.tables) (secondListed : second ∈ manifest.tables)
    (same : first.tableID = second.tableID) : first = second :=
  inj_on_of_nodup_map placed.tablesNodup firstListed secondListed same

variable (listed : table ∈ manifest.tables)

include listed

/-- The entries of all tables that carry the id of one are its own. -/
theorem SafeSnapshotManifest.Placed.filter_flatMap {γ : Type} (image : TableManifest → List γ)
    (label : γ → Bytes)
    (own : ∀ table ∈ manifest.tables, ∀ entry ∈ image table, label entry = table.tableID) :
    (manifest.tables.flatMap image).filter (fun entry => label entry == table.tableID) =
      image table := by
  rw [filter_flatMap_eq (Nodup.of_map _ placed.tablesNodup) listed, filter_eq_self]
  · intro entry member
    exact beq_iff_eq.mpr (own table listed entry member)
  · intro other otherListed different entry member
    rw [own other otherListed entry member, beq_eq_false_iff_ne]
    exact fun same => different (placed.table_unique otherListed listed same)

theorem SafeSnapshotManifest.Placed.parts_filter :
    manifest.parts.filter (fun part => part.tableID == table.tableID) = table.activeParts :=
  placed.filter_flatMap listed _ _ fun other inTables part member =>
    ((placed.tables other inTables).parts part member).1

/-- The parts of a partition are those of its table. -/
theorem SafeSnapshotManifest.Placed.partsAt_parts (partitionID : Bytes) :
    partsAt manifest.parts table.tableID partitionID = table.partsIn partitionID := by
  rw [partsIn, ← placed.parts_filter listed, filter_filter]
  simp only [partsAt, Bool.and_comm]

omit listed

variable {tableID : Bytes}
  (unlisted : tableID ∉ manifest.tableIDs)

include unlisted

omit placed in
/-- No entry carries the id of a table that is not listed. -/
theorem SafeSnapshotManifest.filter_flatMap_of_unlisted {γ : Type}
    (image : TableManifest → List γ) (label : γ → Bytes)
    (own : ∀ table ∈ manifest.tables, ∀ entry ∈ image table, label entry = table.tableID) :
    (manifest.tables.flatMap image).filter (fun entry => label entry == tableID) = [] := by
  rw [filter_eq_nil_iff]
  intro entry member same
  obtain ⟨table, listed, inTable⟩ := mem_flatMap.mp member
  rw [own table listed entry inTable, beq_iff_eq] at same
  exact unlisted (same ▸ mem_map_of_mem listed)

theorem SafeSnapshotManifest.Placed.parts_filter_of_unlisted :
    manifest.parts.filter (fun part => part.tableID == tableID) = [] :=
  filter_flatMap_of_unlisted unlisted _ _ fun other inTables part member =>
    ((placed.tables other inTables).parts part member).1

theorem SafeSnapshotManifest.Placed.partsAt_of_unlisted (partitionID : Bytes) :
    partsAt manifest.parts tableID partitionID = [] := by
  rw [partsAt, ← filter_filter, filter_eq_nil_iff]
  intro part member own
  have listed : part ∈ manifest.parts.filter fun part => part.tableID == tableID :=
    mem_filter.mpr ⟨(mem_filter.mp member).1, own⟩
  simp [placed.parts_filter_of_unlisted unlisted] at listed

omit unlisted

/-- The partitions that a table of the manifest declares. -/
theorem SafeSnapshotManifest.Placed.declares_iff {tableID partitionID : Bytes} :
    manifest.Declares tableID partitionID ↔ ∃ table ∈ manifest.tables, table.tableID = tableID ∧
        ∃ commitment ∈ table.partitionRoots, commitment.partitionID = partitionID := by
  constructor
  · rintro ⟨commitment, member, rfl, rfl⟩
    obtain ⟨table, listed, inTable⟩ := mem_flatMap.mp member
    have own : commitment.tableID = table.tableID :=
      ((placed.tables table listed).partitions commitment inTable).1
    exact ⟨table, listed, own.symm, commitment, inTable, rfl⟩
  · rintro ⟨table, listed, rfl, commitment, inTable, rfl⟩
    have own : commitment.tableID = table.tableID :=
      ((placed.tables table listed).partitions commitment inTable).1
    exact ⟨commitment, mem_flatMap.mpr ⟨table, listed, inTable⟩, own,
      rfl⟩

/-- A declared root is the sum of the parts of its partition. -/
theorem SafeSnapshotManifest.LedgerSound.root_eq (sound : manifest.LedgerSound)
    {commitment : PartitionCommitment} (member : commitment ∈ manifest.commitments) :
    commitment.root = lthashHex (manifest.accumulated commitment.tableID
        commitment.partitionID) := by
  obtain ⟨table, listed, inTable⟩ := mem_flatMap.mp member
  have own : commitment.tableID = table.tableID :=
    ((placed.tables table listed).partitions commitment inTable).1
  rw [(sound table listed).roots commitment inTable,
    SafeSnapshotManifest.accumulated, own, placed.partsAt_parts listed]

end Listings

end HouseGate.Replay
