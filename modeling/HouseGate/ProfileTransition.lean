import HouseGate.ReplayManifest

namespace HouseGate.Replay

open DecimalText CheckedSteps KeyedSort TableManifest List

/-!
# Executor profile transitions

A control-plane step replaces the executor profile of a chain. Its child
manifest repeats the table ledger of its parent; `sameTableLedger` compares
the two entry by entry, except for the storage references of the parts,
which are download hints.
-/

/-- The frozen contract of snapshot queries. -/
structure ActiveQueryPolicy where
  activationID : Bytes
  networkID : Bytes
  keeperShardID : UInt32
  activationBlockSeq : UInt64
  executorProfileID : Bytes
  queryProfileID : Bytes
  enabled : Bool

/-- A change of the executor between two snapshots. -/
structure ExecutorProfileTransition where
  networkID : Bytes
  keeperShardID : UInt32
  prevSnapshotID : Bytes
  prevStateRoot : Bytes
  oldExecutorProfileID : Bytes
  newExecutorProfileID : Bytes
  schemaSnapshotID : Bytes
  schemaRoot : Bytes
  dataRoot : Bytes
  nextSnapshotID : Bytes
  nextStateRoot : Bytes
  nextManifestRoot : Bytes
  activation : ActiveQueryPolicy

/-- Why a transition was refused. -/
inductive ProfileRefusal where
  | previous (reason : ManifestRefusal)
  | next (reason : ManifestRefusal)
  | identitiesRequired
  | identityUnchanged
  | parentMismatch
  | notAdvanced
  | schemaChanged
  | dataRootChanged
  | membershipChanged
  | tableIdentityChanged (tableID : Bytes)
  | partitionRootsChanged (tableID : Bytes)
  | activePartsChanged (tableID : Bytes)
  | frontiersChanged
  | stateRootMismatch
  | networkIDRequired
  | oldProfileMismatch
  | newProfileMismatch
  | predecessorMismatch
  | schemaOrDataMismatch
  | nextManifestMismatch
  | activationDisabled
  | activationShardMismatch
  | activationIncomplete
  | activationProfileMismatch
  | activationBlockMismatch

section Ledgers

/-- Equal in everything but the storage references. -/
def samePartLedger (a b : PartManifestEntry) : Bool :=
  a.tableID = b.tableID && a.partitionID = b.partitionID &&
    a.partName = b.partName && a.partPhysHash = b.partPhysHash &&
    a.partRowLtHash = b.partRowLtHash && a.rowCount = b.rowCount &&
    a.bytes = b.bytes

/-- The pairwise part comparison, on lists of one length. -/
def samePartLedgers : List PartManifestEntry → List PartManifestEntry → Bool
  | a :: restA, b :: restB => samePartLedger a b && samePartLedgers restA restB
  | _, _ => true

/-- The comparison of the tables at one index. -/
def sameTableAt (prev next : TableManifest) : Except ProfileRefusal Unit :=
  if prev.tableID ≠ next.tableID ∨ prev.schemaHash ≠ next.schemaHash then
    .error (.tableIdentityChanged prev.tableID)
  else if prev.partitionRoots ≠ next.partitionRoots then
    .error (.partitionRootsChanged prev.tableID)
  else if prev.activeParts.length ≠ next.activeParts.length then
    .error (.activePartsChanged prev.tableID)
  else if samePartLedgers prev.activeParts next.activeParts = false then
    .error (.activePartsChanged prev.tableID)
  else
    .ok ()

def sameTablesFrom : List TableManifest → List TableManifest → Except ProfileRefusal Unit
  | prev :: restPrev, next :: restNext => do
      sameTableAt prev next
      sameTablesFrom restPrev restNext
  | _, _ => .ok ()

def sameTableLedger (prev next : List TableManifest) : Except ProfileRefusal Unit :=
  if prev.length ≠ next.length then .error .membershipChanged else sameTablesFrom prev next

end Ledgers

section Validation

variable (sum256 : Bytes → Bytes)

/-- The checks of the record's activation. -/
def validateActivation (next : SafeSnapshotManifest) (transition : ExecutorProfileTransition) :
    Except ProfileRefusal Unit :=
  let act := transition.activation
  if act.enabled = false then
    .error .activationDisabled
  else if act.networkID ≠ transition.networkID ∨ act.keeperShardID ≠ transition.keeperShardID then
    .error .activationShardMismatch
  else if act.activationID = [] ∨ act.queryProfileID = [] then
    .error .activationIncomplete
  else if act.executorProfileID ≠ next.executorProfileID then
    .error .activationProfileMismatch
  else if act.activationBlockSeq ≠ next.safeBlockSeq then
    .error .activationBlockMismatch
  else
    .ok ()

variable (prev next : SafeSnapshotManifest)
  (transition : ExecutorProfileTransition)

/-- The checks that bind the transition record to the two manifests. -/
def validateTransitionRecord : Except ProfileRefusal Unit :=
  if transition.networkID = [] then
    .error .networkIDRequired
  else if transition.oldExecutorProfileID ≠ prev.executorProfileID then
    .error .oldProfileMismatch
  else if transition.newExecutorProfileID ≠ next.executorProfileID then
    .error .newProfileMismatch
  else if transition.prevSnapshotID ≠ prev.snapshotID ∨
      transition.prevStateRoot ≠ prev.stateRoot then
    .error .predecessorMismatch
  else if transition.schemaSnapshotID ≠ next.schemaSnapshotID ∨
      transition.schemaRoot ≠ next.schemaRoot ∨ transition.dataRoot ≠ next.dataRoot then
    .error .schemaOrDataMismatch
  else if transition.nextSnapshotID ≠ next.snapshotID ∨ transition.nextStateRoot ≠ next.stateRoot ∨
      transition.nextManifestRoot ≠ next.manifestRoot then
    .error .nextManifestMismatch
  else
    validateActivation next transition

/-- The checks of the two manifests before their tables are compared. -/
def validateProfileIdentities : Except ProfileRefusal Unit :=
  if prev.executorProfileID = [] ∨ next.executorProfileID = [] then
    .error .identitiesRequired
  else if prev.executorProfileID = next.executorProfileID then
    .error .identityUnchanged
  else if next.parentSnapshotID ≠ prev.snapshotID then
    .error .parentMismatch
  else if next.safeBlockSeq ≠ prev.safeBlockSeq + 1 then
    .error .notAdvanced
  else if next.schemaSnapshotID ≠ prev.schemaSnapshotID ∨ next.schemaRoot ≠ prev.schemaRoot then
    .error .schemaChanged
  else if next.dataRoot ≠ prev.dataRoot then
    .error .dataRootChanged
  else
    .ok ()

/-- The checks of the child after its tables are compared. -/
def validateProfileChild : Except ProfileRefusal Unit :=
  let (dataRoot, stateRoot) := assembleStateRoot sum256 next.schemaSnapshotID next.schemaRoot
      next.executorProfileID next.tables
  if prev.trackFrontiers ≠ next.trackFrontiers then
    .error .frontiersChanged
  else if next.dataRoot ≠ dataRoot ∨ next.stateRoot ≠ stateRoot then
    .error .stateRootMismatch
  else
    .ok ()

def liftManifest (refused : ManifestRefusal → ProfileRefusal) :
    Except ManifestRefusal Unit → Except ProfileRefusal Unit
  | .error reason => .error (refused reason)
  | .ok _ => .ok ()

def validateExecutorProfileTransition : Except ProfileRefusal Unit := do
  liftManifest .previous (prev.validate sum256)
  liftManifest .next (next.validate sum256)
  validateProfileIdentities prev next
  sameTableLedger prev.tables next.tables
  validateProfileChild sum256 prev next
  validateTransitionRecord prev next transition

end Validation

section Accepted

variable (storageRefs : List Bytes)

/-- A part with the given download hints. -/
def PartManifestEntry.withStorageRefs (part : PartManifestEntry) : PartManifestEntry :=
  { part with storageRefs := storageRefs }

/-- A table whose parts all have the given download hints. -/
def TableManifest.withStorageRefs (table : TableManifest) : TableManifest :=
  { table with
    activeParts := table.activeParts.map (PartManifestEntry.withStorageRefs storageRefs) }

theorem samePartLedger_iff {a b : PartManifestEntry} :
    samePartLedger a b = true ↔ a.withStorageRefs [] = b.withStorageRefs [] := by
  cases a with
  | mk =>
    cases b with
    | mk => simp [samePartLedger, PartManifestEntry.withStorageRefs, and_assoc]

theorem samePartLedgers_iff
    {left right : List PartManifestEntry} (sameLength : left.length = right.length) :
    samePartLedgers left right = true ↔
      left.map (PartManifestEntry.withStorageRefs []) =
        right.map (PartManifestEntry.withStorageRefs []) := by
  induction left generalizing right with
  | nil =>
    cases right with
    | nil => simp [samePartLedgers]
    | cons b restB => cases sameLength
  | cons a restA inductionHypothesis =>
    cases right with
    | nil => cases sameLength
    | cons b restB =>
      have restLength : restA.length = restB.length := by
        simpa using sameLength
      simp only [samePartLedgers, Bool.and_eq_true, samePartLedger_iff,
        inductionHypothesis restLength, map_cons, cons.injEq]

theorem sameTableAt_ok_iff {prev next : TableManifest} :
    sameTableAt prev next = .ok () ↔ prev.withStorageRefs [] = next.withStorageRefs [] := by
  have lengths : prev.activeParts.map (PartManifestEntry.withStorageRefs []) =
      next.activeParts.map (PartManifestEntry.withStorageRefs []) →
        prev.activeParts.length = next.activeParts.length := by
    intro same
    simpa using congrArg length same
  simp only [sameTableAt, guard_eq_ok_iff, not_or, ne_eq, not_not,
    Bool.not_eq_false, and_true, withStorageRefs,
    mk.injEq]
  constructor
  · rintro ⟨⟨tableID, schemaHash⟩, partitionRoots, sameLength, parts⟩
    exact ⟨tableID, schemaHash, partitionRoots, (samePartLedgers_iff sameLength).mp parts⟩
  · rintro ⟨tableID, schemaHash, partitionRoots, parts⟩
    exact ⟨⟨tableID, schemaHash⟩, partitionRoots, lengths parts,
      (samePartLedgers_iff (lengths parts)).mpr parts⟩

theorem sameTableLedger_ok_iff {prev next : List TableManifest} :
    sameTableLedger prev next = .ok () ↔ prev.map (withStorageRefs []) =
        next.map (withStorageRefs []) := by
  simp only [sameTableLedger, guard_eq_ok_iff, ne_eq, not_not]
  induction prev generalizing next with
  | nil =>
    cases next with
    | nil => simp [sameTablesFrom]
    | cons table rest => simp
  | cons first restPrev inductionHypothesis =>
    cases next with
    | nil => simp
    | cons second restNext =>
      simp only [length_cons, Nat.add_right_cancel_iff, sameTablesFrom, check_eq_ok_iff,
        sameTableAt_ok_iff, map_cons, cons.injEq]
      rw [← inductionHypothesis]
      tauto

theorem liftManifest_eq_ok_iff
    {refused : ManifestRefusal → ProfileRefusal} {check : Except ManifestRefusal Unit} :
    liftManifest refused check = .ok () ↔ check = .ok () := by
  cases check with
  | error reason | ok accepted => simp [liftManifest]

variable {sum256 : Bytes → Bytes} {prev next : SafeSnapshotManifest}
variable {transition : ExecutorProfileTransition}

variable (sum256)

/-- What an accepted child takes over from its parent. -/
structure ProfileStep (prev next : SafeSnapshotManifest) : Prop where
  prevValid : prev.Valid sum256
  nextValid : next.Valid sum256
  changed : prev.executorProfileID ≠ next.executorProfileID
  advanced : next.safeBlockSeq = prev.safeBlockSeq + 1
  schemaSnapshotID : next.schemaSnapshotID = prev.schemaSnapshotID
  schemaRoot : next.schemaRoot = prev.schemaRoot
  dataRoot : next.dataRoot = prev.dataRoot
  tables :
    next.tables.map (withStorageRefs []) = prev.tables.map (withStorageRefs [])

variable {sum256} in
theorem profileStep_of_accepted
    (accepted : validateExecutorProfileTransition sum256 prev next transition = .ok ()) :
    ProfileStep sum256 prev next := by
  simp only [validateExecutorProfileTransition,
    check_eq_ok_iff, liftManifest_eq_ok_iff,
    SafeSnapshotManifest.validate_ok_iff, validateProfileIdentities,
    guard_eq_ok_iff, not_or, ne_eq, not_not, and_true,
    sameTableLedger_ok_iff] at accepted
  obtain ⟨prevValid, nextValid,
    ⟨_, changed, _, advanced, ⟨schemaSnapshotID, schemaRoot⟩, dataRoot⟩,
    tables, _⟩ := accepted
  exact {
    prevValid, nextValid, changed, advanced, schemaSnapshotID, schemaRoot
    dataRoot
    tables := tables.symm }

variable (executorProfileID : Bytes)
  (storageRefs : List Bytes)

/-- A child with a new profile and new download hints, ready to seal. -/
def profileDraft (prev : SafeSnapshotManifest) : SafeSnapshotManifest :=
  { prev with
    snapshotID := []
    parentSnapshotID := prev.snapshotID
    safeBlockSeq := prev.safeBlockSeq + 1
    executorProfileID := executorProfileID
    tables := prev.tables.map (withStorageRefs storageRefs) }

def profileChild (prev : SafeSnapshotManifest) : SafeSnapshotManifest :=
  (profileDraft executorProfileID storageRefs prev).seal sum256

/-- The record of a transition on shard zero of a network. -/
def profileRecord (networkID : Bytes) (prev next : SafeSnapshotManifest) :
    ExecutorProfileTransition :=
  { networkID := networkID
    keeperShardID := 0
    prevSnapshotID := prev.snapshotID
    prevStateRoot := prev.stateRoot
    oldExecutorProfileID := prev.executorProfileID
    newExecutorProfileID := next.executorProfileID
    schemaSnapshotID := next.schemaSnapshotID
    schemaRoot := next.schemaRoot
    dataRoot := next.dataRoot
    nextSnapshotID := next.snapshotID
    nextStateRoot := next.stateRoot
    nextManifestRoot := next.manifestRoot
    activation := {
      activationID := networkID
      networkID := networkID
      keeperShardID := 0
      activationBlockSeq := next.safeBlockSeq
      executorProfileID := next.executorProfileID
      queryProfileID := networkID
      enabled := true } }

theorem TableManifest.normalized_withStorageRefs (table : TableManifest) :
    (table.withStorageRefs storageRefs).normalized =
      table.normalized.withStorageRefs storageRefs := by
  have sorted : sortBy PartManifestEntry.key
      (table.activeParts.map (PartManifestEntry.withStorageRefs storageRefs)) =
        (sortBy PartManifestEntry.key table.activeParts).map
          (PartManifestEntry.withStorageRefs storageRefs) :=
    sortBy_map _ _ _ (fun _ => rfl) _
  simp only [normalized, withStorageRefs, sorted]

theorem profileChild_tables (sealed : prev.normalized = prev) :
    (profileChild sum256 executorProfileID storageRefs prev).tables =
      prev.tables.map (withStorageRefs storageRefs) := by
  have commuted : (profileDraft executorProfileID storageRefs prev).normalized.tables =
      prev.normalized.tables.map (withStorageRefs storageRefs) := by
    rw [SafeSnapshotManifest.normalized_tables,
      SafeSnapshotManifest.normalized_tables, profileDraft,
      sortBy_map key (withStorageRefs storageRefs) key (fun _ => rfl),
      map_map, map_map]
    apply map_congr_left
    intro table _
    exact table.normalized_withStorageRefs storageRefs
  rw [profileChild, SafeSnapshotManifest.seal_tables, commuted, sealed]

variable {sum256}

theorem profileChild_dataRoot (sealed : prev.normalized = prev) (valid : prev.Valid sum256) :
    (profileChild sum256 executorProfileID storageRefs prev).dataRoot = prev.dataRoot := by
  have tables := profileChild_tables sum256 executorProfileID storageRefs sealed
  have sameTable : dataJson ∘ withStorageRefs storageRefs = dataJson :=
    rfl
  have sameData :
      (profileChild sum256 executorProfileID storageRefs prev).dataJson = prev.dataJson := by
    rw [SafeSnapshotManifest.dataJson, profileChild,
      SafeSnapshotManifest.seal_normalized, ← profileChild, tables,
      SafeSnapshotManifest.dataJson, sealed, sliceJson, sliceJson,
      map_map, sameTable]
    simp
  rw [valid.dataRootEq, profileChild, SafeSnapshotManifest.seal_dataRoot,
    ← profileChild, SafeSnapshotManifest.computeDataRoot, sameData]
  rfl

/-- Every sealed manifest has an accepted child for every new profile. -/
theorem profileChild_accepted
    (networkID executorProfileID : Bytes)
    (storageRefs : List Bytes)
    (valid : prev.Valid sum256)
    (sealed : prev.normalized = prev)
    (network : networkID ≠ [])
    (named : executorProfileID ≠ [])
    (changed : prev.executorProfileID ≠ executorProfileID) :
    validateExecutorProfileTransition sum256 prev
        (profileChild sum256 executorProfileID storageRefs prev)
        (profileRecord networkID prev (profileChild sum256 executorProfileID storageRefs prev)) =
      .ok () := by
  have childValid : (profileChild sum256 executorProfileID storageRefs prev).Valid
      sum256 :=
    SafeSnapshotManifest.Identified.valid_seal {
      schemaSnapshotID := valid.schemaSnapshotID
      schemaRoot := valid.schemaRoot
      executorProfileID := named
      frontiers := valid.frontiers }
  have sameTables : prev.tables.map (withStorageRefs []) =
      (profileChild sum256 executorProfileID storageRefs prev).tables.map (withStorageRefs []) := by
    rw [profileChild_tables sum256 executorProfileID storageRefs sealed, map_map]
    apply map_congr_left
    intro table _
    simp [withStorageRefs, PartManifestEntry.withStorageRefs]
  have identities : validateProfileIdentities prev
      (profileChild sum256 executorProfileID storageRefs prev) = .ok () := by
    simp only [validateProfileIdentities, guard_eq_ok_iff, not_or, ne_eq, not_not, and_true]
    exact ⟨⟨valid.executorProfileID, named⟩, changed, rfl, rfl, ⟨rfl, rfl⟩,
      profileChild_dataRoot executorProfileID storageRefs sealed valid⟩
  have child : validateProfileChild sum256 prev
      (profileChild sum256 executorProfileID storageRefs prev) = .ok () := by
    unfold validateProfileChild
    rw [guard_eq_ok_iff, guard_eq_ok_iff]
    refine ⟨not_not.mpr rfl, not_or.mpr ⟨not_not.mpr rfl, ?_⟩, rfl⟩
    exact not_not.mpr rfl
  simp only [validateExecutorProfileTransition, check_eq_ok_iff, liftManifest_eq_ok_iff,
    SafeSnapshotManifest.validate_ok_iff, sameTableLedger_ok_iff]
  refine ⟨valid, childValid, identities, sameTables, child, ?_⟩
  simp [validateTransitionRecord, validateActivation, profileRecord, network]

end Accepted

end HouseGate.Replay
