import HouseGate.LedgerContent
import HouseGate.ReplaySoundness

namespace HouseGate.Replay

open AsciiText DecimalText LtHash CheckedSteps SafeSnapshotManifest Except Verifier

/-!
# Agreement of verifiers

The state root of a manifest pins what the executor reads of it: the tables,
their partitions and the sums of their parts.  How the parts are listed and
named is free.  Two verifiers that start from manifests with one state root
therefore come to one state root.
-/

variable {α : Type} {primitives : Primitives α} {executor : Executor α}

section Content

variable {left right : SafeSnapshotManifest}

theorem SameContent.declares_iff (same : SameContent left right) (tableID partitionID : Bytes) :
    left.Declares tableID partitionID ↔ right.Declares tableID partitionID := by
  constructor
  · rintro ⟨commitment, member, placed⟩
    exact ⟨commitment, (same.commitments commitment).mp member, placed⟩
  · rintro ⟨commitment, member, placed⟩
    exact ⟨commitment, (same.commitments commitment).mpr member, placed⟩

/-- No part is outside of the declared partitions. -/
theorem Consistent.partsAt_of_undeclared
    {manifest : SafeSnapshotManifest} {tableID partitionID : Bytes}
    (consistent : Consistent primitives manifest)
    (undeclared : ¬ manifest.Declares tableID partitionID) :
    partsAt manifest.parts tableID partitionID = [] := by
  rw [List.eq_nil_iff_forall_not_mem]
  intro part member
  obtain ⟨listed, rfl, rfl⟩ := mem_partsAt.mp member
  obtain ⟨table, tableListed, inTable⟩ := List.mem_flatMap.mp listed
  obtain ⟨commitment, declared, partition⟩ :=
    (consistent.sound table tableListed).declared part inTable
  have placed := consistent.placed.tables table tableListed
  apply undeclared
  refine ⟨commitment, List.mem_flatMap.mpr ⟨table, tableListed, declared⟩, ?_, partition⟩
  rw [(placed.partitions commitment declared).1, (placed.parts part inTable).1]

/-- The content of a manifest fixes the sum of every partition. -/
theorem SameContent.accumulated_eq
    (same : SameContent left right) (leftConsistent : Consistent primitives left)
    (rightConsistent : Consistent primitives right) (tableID partitionID : Bytes) :
    left.accumulated tableID partitionID = right.accumulated tableID partitionID := by
  by_cases declared : left.Declares tableID partitionID
  · obtain ⟨commitment, member, rfl, rfl⟩ := declared
    have leftRoot := leftConsistent.sound.root_eq leftConsistent.placed member
    have rightRoot :=
      rightConsistent.sound.root_eq rightConsistent.placed ((same.commitments commitment).mp member)
    simpa using congrArg lthashFromHex (leftRoot.symm.trans rightRoot)
  · have undeclared := mt (same.declares_iff tableID partitionID).mpr declared
    rw [accumulated, accumulated,
      leftConsistent.partsAt_of_undeclared declared,
      rightConsistent.partsAt_of_undeclared undeclared]

end Content

section Blocks

variable {leftPrev rightPrev leftNext rightNext : SafeSnapshotManifest}
variable {job : ReplayJob} {batches : List (StatementRows α)}
variable {leftResult rightResult : ExecutionResult}

theorem builtFrom_unique {schemas : Map TableSchema} {blockSeq : UInt64} :
    Relator.RightUnique (BuiltFrom primitives schemas blockSeq) := by
  rintro batch left right ⟨source, supplied, built⟩ ⟨other, otherSupplied, otherBuilt⟩
  cases supplied.symm.trans otherSupplied
  exact ok.inj (built.symm.trans otherBuilt)

theorem Applied.identities_next {prev next : SafeSnapshotManifest} {result : ExecutionResult}
    (trace : Applied primitives executor prev job batches next result) :
    next.schemaSnapshotID = prev.schemaSnapshotID ∧
    next.executorProfileID = prev.executorProfileID := by
  have schemas := congrArg schemaSnapshotID trace.nextEq
  have profile := congrArg executorProfileID trace.nextEq
  exact ⟨schemas, profile⟩

/-- What of two manifests decides the state root of the next block. -/
structure SameBase (left right : SafeSnapshotManifest) : Prop where
  content : SameContent left right
  schemaSnapshotID : left.schemaSnapshotID = right.schemaSnapshotID
  schemaRoot : left.schemaRoot = right.schemaRoot
  executorProfileID : left.executorProfileID = right.executorProfileID

variable (left : Applied primitives executor leftPrev job batches leftNext leftResult)
  (right : Applied primitives executor rightPrev job batches rightNext rightResult)

include left right

/-- The parts that a block adds do not depend on its base. -/
theorem Applied.affected_eq : left.state.affected = right.state.affected := by
  have schemas : left.schemas = right.schemas :=
    ok.inj (left.schemasResolved.symm.trans right.schemasResolved)
  obtain ⟨leftParts, leftPaired, leftCollected⟩ := left.block.built
  obtain ⟨rightParts, rightPaired, rightCollected⟩ := right.block.built
  rw [schemas] at leftPaired
  have parts : leftParts = rightParts :=
    List.right_unique_forall₂' builtFrom_unique leftPaired rightPaired
  rw [leftCollected, rightCollected, parts]

/-- Bases of one content are taken to manifests of one content. -/
theorem Applied.sameContent_next (same : SameContent leftPrev rightPrev) :
    SameContent leftNext rightNext := by
  have affected := left.affected_eq right
  constructor
  · intro tableID
    rw [left.effect.tables, right.effect.tables, same.tables]
  intro commitment
  rw [left.consistent_next.mem_commitments_iff,
    right.consistent_next.mem_commitments_iff, left.effect.declares,
    right.effect.declares, left.effect.accumulated,
    right.effect.accumulated, same.declares_iff,
    same.accumulated_eq left.consistent_prev right.consistent_prev,
    affected]

theorem Applied.schemaRoot_eq (same : leftPrev.schemaRoot = rightPrev.schemaRoot) :
    leftNext.schemaRoot = rightNext.schemaRoot := by
  have leftRoot : leftNext.schemaRoot = left.schemaRoot :=
    congrArg SafeSnapshotManifest.schemaRoot left.nextEq
  have rightRoot : rightNext.schemaRoot = right.schemaRoot :=
    congrArg SafeSnapshotManifest.schemaRoot right.nextEq
  rw [leftRoot, rightRoot]
  rcases (openLedger_ok left.inputs.placed left.prev_sound
      left.transitionChecked left.opened).2 with
    ⟨noTransition, leftKept, _⟩ | ⟨transition, leftSome, leftNew, _⟩
  · rcases (openLedger_ok right.inputs.placed right.prev_sound
        right.transitionChecked right.opened).2 with
      ⟨_, rightKept, _⟩ | ⟨transition, rightSome, _⟩
    · rw [leftKept, rightKept, same]
    · rw [noTransition] at rightSome
      cases rightSome
  · rcases (openLedger_ok right.inputs.placed right.prev_sound
        right.transitionChecked right.opened).2 with
      ⟨noTransition, _⟩ | ⟨other, rightSome, rightNew, _⟩
    · rw [noTransition] at leftSome
      cases leftSome
    · cases leftSome.symm.trans rightSome
      rw [leftNew, rightNew]

theorem Applied.stateRoot_eq (same : SameBase leftPrev rightPrev) :
    leftNext.stateRoot = rightNext.stateRoot := by
  have dataRoot : leftNext.dataRoot = rightNext.dataRoot :=
    left.consistent_next.dataRoot_eq right.consistent_next
      (left.sameContent_next right same.content)
  have schemaRoot := left.schemaRoot_eq right same.schemaRoot
  obtain ⟨leftSchemas, leftProfile⟩ := left.identities_next
  obtain ⟨rightSchemas, rightProfile⟩ := right.identities_next
  have leftValid := left.valid_next left.inputs.valid
  have rightValid := right.valid_next right.inputs.valid
  rw [leftValid.stateRootEq, rightValid.stateRootEq, computeStateRoot, computeStateRoot, stateJson,
    stateJson, dataRoot, schemaRoot, leftSchemas,
    rightSchemas, same.schemaSnapshotID, leftProfile, rightProfile,
    same.executorProfileID]

end Blocks

variable {base other : SafeSnapshotManifest}

section Verifiers

variable {left right : Verifier α} {job : ReplayJob}

/-- The manifests that the two have stored under the base of a job. -/
def storedBases (left right : Verifier α) (job : ReplayJob) : Set SafeSnapshotManifest :=
  { base | left.snapshots job.prevSafeSnapshotID = some base ∨
      right.snapshots job.prevSafeSnapshotID = some base }

/-- The digests of the stored bases tell their preimages. -/
structure DigestInjective
    (sum256 : Bytes → Bytes)
    (left right : Verifier α)
    (job : ReplayJob) :
    Prop where
  state : Set.InjOn (canonicalDigest sum256 stateRootDomain)
      (Set.image stateJson (storedBases left right job))
  data : Set.InjOn (canonicalDigest sum256 dataRootDomain)
      (Set.image dataJson (storedBases left right job))

/-- Two verifiers of one configuration that read the same payloads. -/
structure SameSetup (left right : Verifier α) (job : ReplayJob) : Prop where
  executor : left.executor = right.executor
  schemaHashes : left.schemaHashes = right.schemaHashes
  payloads : ∀ statement ∈ job.statements,
      left.payloads statement.payloadRef = right.payloads statement.payloadRef

theorem SameSetup.prepared_eq (setup : SameSetup left right job) :
    left.prepareStatements primitives job.statements =
      right.prepareStatements primitives job.statements := by
  apply mapM_congr_of_mem
  intro statement member
  rw [prepareStatement, prepareStatement, setup.payloads statement member]

/-- Stored manifests with the state root of the job are one base. -/
theorem sameBase_of_stored
    (injective : DigestInjective primitives.sum256 left right job)
    (stored : left.snapshots job.prevSafeSnapshotID = some base)
    (otherStored : right.snapshots job.prevSafeSnapshotID = some other)
    (valid : base.Valid primitives.sum256)
    (otherValid : other.Valid primitives.sum256)
    (placed : base.Placed)
    (otherPlaced : other.Placed)
    (same : base.stateRoot = other.stateRoot) :
    SameBase base other := by
  rw [valid.stateRootEq, otherValid.stateRootEq] at same
  have stateJson : base.stateJson = other.stateJson :=
    injective.state ⟨base, .inl stored, rfl⟩ ⟨other, .inr otherStored, rfl⟩ same
  obtain ⟨schemaSnapshotID, schemaRoot, executorProfileID, dataRoot⟩ := by
    simpa [SafeSnapshotManifest.stateJson] using stateJson
  rw [valid.dataRootEq, otherValid.dataRootEq] at dataRoot
  have dataJson : base.dataJson = other.dataJson :=
    injective.data ⟨base, .inl stored, rfl⟩ ⟨other, .inr otherStored, rfl⟩ dataRoot
  exact ⟨sameContent_of_dataJson_eq placed otherPlaced dataJson,
    schemaSnapshotID, schemaRoot, executorProfileID⟩

/-- The bases of two executions of one job decide the same. -/
theorem sameBase_of_baseOf (executor : left.executor = right.executor)
    (injective : DigestInjective primitives.sum256 left right job)
    (baseOf : BaseOf primitives left job base) (otherOf : BaseOf primitives right job other)
    (placed : base.Placed) (otherPlaced : other.Placed) :
    SameBase base other := by
  have valid := validate_ok_iff.mp baseOf.validated
  have otherValid := validate_ok_iff.mp otherOf.validated
  rcases baseOf.origin with
    ⟨named, stored, stateRoot⟩ | ⟨unnamed, derived, _⟩
  · rcases otherOf.origin with
      ⟨_, otherStored, otherRoot⟩ | ⟨unnamed, _⟩
    · exact sameBase_of_stored injective stored otherStored valid otherValid
        placed otherPlaced (stateRoot.trans otherRoot.symm)
    · exact absurd unnamed named
  · rcases otherOf.origin with ⟨named, _⟩ | ⟨_, otherDerived, _⟩
    · exact absurd unnamed named
    · rw [derived, otherDerived, executor]
      exact ⟨⟨fun _ => Iff.rfl, fun _ => Iff.rfl⟩, rfl, rfl, rfl⟩

/-- Two executions of one job compute one state root. -/
theorem executions_agree
    {leftAdmitted rightAdmitted : Admitted} {leftHash rightHash : Bytes → Option Bytes}
    {leftNext rightNext : SafeSnapshotManifest} {leftResult rightResult : ExecutionResult}
    (setup : SameSetup left right job)
    (injective : DigestInjective primitives.sum256 left right job)
    (leftAdmission : Admission primitives left job leftAdmitted leftHash)
    (rightAdmission : Admission primitives right job rightAdmitted rightHash)
    (leftExecuted :
      left.executor.applyContext primitives leftAdmitted.base job
        leftAdmitted.prepared = .ok (leftNext, leftResult))
    (rightExecuted :
      right.executor.applyContext primitives rightAdmitted.base job
        rightAdmitted.prepared = .ok (rightNext, rightResult)) :
    leftResult.computedStateRoot = rightResult.computedStateRoot := by
  have prepared : leftAdmitted.prepared = rightAdmitted.prepared := by
    have loaded := leftAdmission.prepared
    rw [setup.prepared_eq] at loaded
    exact ok.inj (loaded.symm.trans rightAdmission.prepared)
  rw [applyContext_stateRoot leftExecuted, applyContext_stateRoot rightExecuted]
  rw [prepared, setup.executor] at leftExecuted
  obtain ⟨materialize, schemas, configured, resolved, ⟨leftTrace⟩⟩ := applyContext_ok leftExecuted
  obtain ⟨other, otherSchemas, otherConfigured, otherResolved,
    ⟨rightTrace⟩⟩ := applyContext_ok rightExecuted
  cases configured.symm.trans otherConfigured
  cases resolved.symm.trans otherResolved
  apply leftTrace.stateRoot_eq rightTrace
  exact sameBase_of_baseOf setup.executor injective (prevSafeSnapshot_ok leftAdmission.base).1
    (prevSafeSnapshot_ok rightAdmission.base).1
    leftTrace.inputs.placed rightTrace.inputs.placed

/--
Agreement of honest verifiers.  Whatever manifests with the state root of the
job two verifiers have stored, their attestations agree on the computed state
root and on the match with the source.
-/
theorem verifiers_agree
    (primitives : Primitives α)
    (left right : Verifier α)
    (job : ReplayJob)
    (leftAttestation rightAttestation : ReplayAttestation)
    (setup : SameSetup left right job)
    (injective : DigestInjective primitives.sum256 left right job)
    (leftAnswered : (left.verify primitives job).answer = .ok leftAttestation)
    (rightAnswered : (right.verify primitives job).answer = .ok rightAttestation) :
    leftAttestation.receipt.computedStateRoot =
      rightAttestation.receipt.computedStateRoot ∧
    leftAttestation.matchSourceRoot = rightAttestation.matchSourceRoot := by
  obtain ⟨leftAdmitted, leftHash, leftAdmission, leftWay⟩ := verify_answer leftAnswered
  obtain ⟨rightAdmitted, rightHash, rightAdmission, rightWay⟩ := verify_answer rightAnswered
  have hashes : leftHash = rightHash := by
    have used := leftAdmission.hashes
    rw [localSchemaHash, setup.schemaHashes] at used
    exact ok.inj (used.symm.trans rightAdmission.hashes)
  have mismatch : leftAdmitted.mismatch = rightAdmitted.mismatch := by
    have found := leftAdmission.mismatch
    rw [hashes] at found
    exact ok.inj (found.symm.trans rightAdmission.mismatch)
  rcases leftWay with
    ⟨_, leftFound, leftReceipt, leftReported⟩ | ⟨leftNone, leftNext, leftResult, leftExecution⟩
  · rcases rightWay with
      ⟨_, _, rightReceipt, rightReported⟩ | ⟨rightNone, _⟩
    · rw [leftReceipt, rightReceipt, leftReported, rightReported]
      exact ⟨rfl, rfl⟩
    · rw [mismatch, rightNone] at leftFound
      cases leftFound
  · rcases rightWay with
      ⟨_, rightFound, _⟩ | ⟨_, rightNext, rightResult, rightExecution⟩
    · rw [← mismatch, leftNone] at rightFound
      cases rightFound
    have roots := executions_agree setup injective leftAdmission rightAdmission
        leftExecution.executed rightExecution.executed
    have computed :
        leftAttestation.receipt.computedStateRoot =
          rightAttestation.receipt.computedStateRoot := by
      rw [leftExecution.receipt, rightExecution.receipt]
      exact roots
    refine ⟨computed, ?_⟩
    rw [leftExecution.reported, rightExecution.reported,
      leftExecution.receipt, rightExecution.receipt]
    exact congrArg (fun root => decide (root = job.sourceClaimRoot)) roots

/-- A block of rows keeps what the state root says besides the data. -/
theorem Applied.root_fields_kept
    {prev next : SafeSnapshotManifest}
    {batches : List (StatementRows α)}
    {result : ExecutionResult}
    (rowsOnly : job.tableSetTransition = none)
    (trace : Applied primitives executor prev job batches next result) :
    next.schemaRoot = prev.schemaRoot ∧
    next.schemaSnapshotID = prev.schemaSnapshotID ∧
    next.executorProfileID = prev.executorProfileID := by
  refine ⟨?_, trace.identities_next⟩
  have reached : next.schemaRoot = trace.schemaRoot :=
    congrArg SafeSnapshotManifest.schemaRoot trace.nextEq
  rw [reached]
  rcases (openLedger_ok trace.inputs.placed trace.prev_sound
      trace.transitionChecked trace.opened).2 with
    ⟨-, kept, -⟩ | ⟨transition, changed, -⟩
  · exact kept
  · rw [rowsOnly] at changed
    cases changed

/-- So does a run of such blocks. -/
theorem runBlocks_root_fields
    {prev next : SafeSnapshotManifest}
    {blocks : List (Block α)}
    (rowsOnly : ∀ block ∈ blocks, block.job.tableSetTransition = none)
    (ran : runBlocks primitives executor blocks prev = .ok next) :
    next.schemaRoot = prev.schemaRoot ∧
    next.schemaSnapshotID = prev.schemaSnapshotID ∧
    next.executorProfileID = prev.executorProfileID := by
  refine foldlM_processed (fun _ state => state.schemaRoot = prev.schemaRoot ∧
      state.schemaSnapshotID = prev.schemaSnapshotID ∧
      state.executorProfileID = prev.executorProfileID) ?_ ran ⟨rfl, rfl, rfl⟩
  rintro _ block before after member applied ⟨schemaRoot, schemas, profile⟩
  obtain ⟨_, ⟨trace⟩⟩ := applyBlock_ok applied
  obtain ⟨rootKept, schemasKept, profileKept⟩ := trace.root_fields_kept (rowsOnly block member)
  exact ⟨rootKept.trans schemaRoot, schemasKept.trans schemas, profileKept.trans profile⟩

/-- A manifest stored under the name that the job uses. -/
def stored (manifest : SafeSnapshotManifest) : SafeSnapshotManifest :=
  { manifest with snapshotID := ascii "base" }

theorem chained_stored
    {manifest : SafeSnapshotManifest}
    (chained : Chained primitives executor manifest) :
    Chained primitives executor (stored manifest) :=
  { chained with valid := { chained.valid with snapshotID := List.cons_ne_nil _ _ } }

/-- The bases of the two runs differ in their parts, and in nothing that is digested. -/
theorem cuts_documents
    {left right : SafeSnapshotManifest}
    (leftRun : runBlocks flatPrimitives eventsExecutor oneCut (eventsGenesis 0) = .ok left)
    (rightRun : runBlocks flatPrimitives eventsExecutor twoCuts (eventsGenesis 0) = .ok right) :
    left.dataJson = right.dataJson ∧ left.stateJson = right.stateJson := by
  have leftRows : ∀ block ∈ oneCut, block.job.tableSetTransition = none :=
    fun block member => cuts_rowsOnly block (List.mem_append_left _ member)
  have rightRows : ∀ block ∈ twoCuts, block.job.tableSetTransition = none :=
    fun block member => cuts_rowsOnly block (List.mem_append_right _ member)
  have consistent := consistent_of_run leftRun
  have leftGrown := runBlocks_grownBy consistent leftRows leftRun
  have rightGrown := runBlocks_grownBy consistent rightRows rightRun
  have elements : addedElements flatPrimitives eventsExecutor twoCuts =
      addedElements flatPrimitives eventsExecutor oneCut := by
    funext tableID partitionID
    exact (addedElements_cuts tableID partitionID).symm
  rw [elements] at rightGrown
  have same := leftGrown.sameContent rightGrown
  obtain ⟨leftRoot, leftSchemas, leftProfile⟩ := runBlocks_root_fields leftRows leftRun
  obtain ⟨rightRoot, rightSchemas, rightProfile⟩ := runBlocks_root_fields rightRows rightRun
  refine ⟨dataJson_eq_of_sameContent leftGrown.consistent.placed rightGrown.consistent.placed
    same, ?_⟩
  rw [stateJson, stateJson, leftRoot, leftSchemas, leftProfile, rightRoot, rightSchemas,
    rightProfile, leftGrown.consistent.dataRoot_eq rightGrown.consistent same]

/-- One base has its rows in one part and the other in two. -/
theorem verifiers_agree_events : ∃ left right claimed leftAttestation rightAttestation,
    runBlocks flatPrimitives eventsExecutor oneCut (eventsGenesis 0) = .ok left ∧
    runBlocks flatPrimitives eventsExecutor twoCuts (eventsGenesis 0) = .ok right ∧
    ((eventsVerifier (stored left)).verify flatPrimitives
      (eventsJob (stored left) 3 claimed)).answer = .ok leftAttestation ∧
    ((eventsVerifier (stored right)).verify flatPrimitives
      (eventsJob (stored left) 3 claimed)).answer = .ok rightAttestation ∧
    leftAttestation.receipt.computedStateRoot =
      rightAttestation.receipt.computedStateRoot ∧
    leftAttestation.matchSourceRoot = rightAttestation.matchSourceRoot := by
  obtain ⟨left, right, leftRun, rightRun, ⟨leftChained, leftSeq⟩, rightChained, rightSeq⟩ :=
    runBlocks_cuts
  obtain ⟨sameData, sameState⟩ := cuts_documents leftRun rightRun
  have leftRows : ∀ block ∈ oneCut, block.job.tableSetTransition = none :=
    fun block member => cuts_rowsOnly block (List.mem_append_left _ member)
  have rightRows : ∀ block ∈ twoCuts, block.job.tableSetTransition = none :=
    fun block member => cuts_rowsOnly block (List.mem_append_right _ member)
  obtain ⟨-, leftSchemas, leftProfile⟩ := runBlocks_root_fields leftRows leftRun
  obtain ⟨-, rightSchemas, rightProfile⟩ := runBlocks_root_fields rightRows rightRun
  have sameRoot : left.stateRoot = right.stateRoot := by
    rw [leftChained.valid.stateRootEq, rightChained.valid.stateRootEq, computeStateRoot,
      computeStateRoot, sameState]
  have sameJob : ∀ claimed, eventsJob (stored right) 3 claimed =
      eventsJob (stored left) 3 claimed := by
    intro claimed
    simp only [eventsJob, stored, sameRoot]
  obtain ⟨claimed, leftAttestation, claims, leftAnswered, -⟩ :=
    eventsJob_matched (chained_stored leftChained) leftSchemas leftProfile 3
      (leftSeq ▸ by decide)
  obtain ⟨_, _, rightAttestation, -, rightAnswered, -⟩ :=
    eventsJob_attested (chained_stored rightChained) rightSchemas rightProfile 3
      (rightSeq ▸ by decide) claims
  rw [sameJob] at rightAnswered
  have documents : ∀ base ∈ storedBases (eventsVerifier (stored left))
      (eventsVerifier (stored right)) (eventsJob (stored left) 3 claimed),
      base.stateJson = left.stateJson ∧ base.dataJson = left.dataJson := by
    rintro base (found | found)
    · cases found
      exact ⟨rfl, rfl⟩
    · cases found
      exact ⟨sameState.symm, sameData.symm⟩
  refine ⟨left, right, claimed, leftAttestation, rightAttestation, leftRun, rightRun,
    leftAnswered, rightAnswered, ?_⟩
  refine verifiers_agree flatPrimitives (eventsVerifier (stored left))
    (eventsVerifier (stored right)) _ _ _ ⟨rfl, rfl, fun _ _ => rfl⟩ ⟨?_, ?_⟩
    leftAnswered rightAnswered
  · rintro _ ⟨base, listed, rfl⟩ _ ⟨other, otherListed, rfl⟩ _
    rw [(documents base listed).1, (documents other otherListed).1]
  · rintro _ ⟨base, listed, rfl⟩ _ ⟨other, otherListed, rfl⟩ _
    rw [(documents base listed).2, (documents other otherListed).2]

end Verifiers

end HouseGate.Replay
