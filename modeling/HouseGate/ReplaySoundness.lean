import HouseGate.LedgerChain
import HouseGate.ReplayVerifier

namespace HouseGate.Replay

open DecimalText AsciiText CheckedSteps Verifier List Statement

/-!
# What a matching attestation rests on

An attestation that reports a match is traced back through the verifier: the
base manifest was validated and is the one the job names, every payload had its
declared digest and length, every schema hash was the local one, and the root
that was computed is the root that was claimed.  A job with a foreign schema
hash is never executed.
-/

variable {α : Type} {primitives : Primitives α} {verifier : Verifier α}
variable {job : ReplayJob}
  {statements : List Statement}

section JobShape

theorem checkStatements_ok {seen : List Bytes} {lastSeq : UInt64}
    (passed : checkStatements primitives seen lastSeq statements = .ok ()) :
    (∀ statement ∈ statements, statement.statementID ∉ seen ∧ lastSeq < statement.statementSeq) ∧
    (statements.map statementID).Nodup ∧
    (statements.map statementSeq).Pairwise (· < ·) := by
  induction statements generalizing seen lastSeq with
  | nil => simp
  | cons statement rest inductionHypothesis =>
    simp only [checkStatements, guard_eq_ok_iff, bind_eq_ok_iff] at passed
    obtain ⟨_, fresh, ascending, _, _, restPassed⟩ := passed
    obtain ⟨others, distinct, ordered⟩ := inductionHypothesis restPassed
    have above : lastSeq < statement.statementSeq := by
      have notBelow : ¬statement.statementSeq ≤ lastSeq := fun below => ascending (.inr below)
      exact UInt64.not_le.mp notBelow
    refine ⟨?_, ?_, ?_⟩
    · intro item member
      rcases mem_cons.mp member with rfl | later
      · exact ⟨fresh, above⟩
      · obtain ⟨itemFresh, itemAbove⟩ := others item later
        exact ⟨fun inSeen => itemFresh (mem_cons_of_mem _ inSeen), UInt64.lt_trans above itemAbove⟩
    · rw [map_cons, nodup_cons]
      refine ⟨?_, distinct⟩
      intro repeated
      obtain ⟨item, later, same⟩ := mem_map.mp repeated
      exact (others item later).1 (same ▸ mem_cons_self)
    · rw [map_cons, pairwise_cons]
      refine ⟨?_, ordered⟩
      intro seq listed
      obtain ⟨item, later, rfl⟩ := mem_map.mp listed
      exact (others item later).2

/-- A job of an accepted shape lists its statements once and in order. -/
theorem validateJobShape_statements (accepted : validateJobShape primitives job = .ok ()) :
    (job.statements.map statementID).Nodup ∧
    (job.statements.map statementSeq).Pairwise (· < ·) := by
  simp only [validateJobShape, guard_eq_ok_iff] at accepted
  obtain ⟨_, _, _, _, rest⟩ := accepted
  cases transition : job.tableSetTransition with
  | none =>
    simp only [transition, guard_eq_ok_iff] at rest
    obtain ⟨_, _, _, checked⟩ := rest
    exact (checkStatements_ok checked).2
  | some change =>
    simp only [transition, validateTransitionJobShape, guard_eq_ok_iff] at rest
    obtain ⟨noStatements, _⟩ := rest
    have empty : job.statements = [] := not_not.mp noStatements
    simp [empty]

end JobShape

variable {base : SafeSnapshotManifest}

section Base

/-- The base of a job: the manifest it names, or the empty genesis. -/
structure BaseOf
    (primitives : Primitives α)
    (verifier : Verifier α)
    (job : ReplayJob)
    (base : SafeSnapshotManifest) :
    Prop where
  validated : base.validate primitives.sum256 = .ok ()
  origin : (job.prevSafeSnapshotID ≠ [] ∧
      verifier.snapshots job.prevSafeSnapshotID = some base ∧ base.stateRoot = job.prevStateRoot) ∨
    (job.prevSafeSnapshotID = [] ∧ base = verifier.executor.genesisSnapshot primitives 0
        job.schemaSnapshotID job.executorProfileID ∧
      base.isEmptyGenesis = true)

theorem genesisSnapshot_ok (derived : verifier.genesisSnapshot primitives job = .ok base) :
    base.validate primitives.sum256 = .ok () ∧
    base = verifier.executor.genesisSnapshot primitives 0
      job.schemaSnapshotID job.executorProfileID ∧
    base.isEmptyGenesis = true := by
  unfold genesisSnapshot at derived
  cases checked : (verifier.executor.genesisSnapshot primitives 0 job.schemaSnapshotID
      job.executorProfileID).validate primitives.sum256 with
  | error reason => simp [checked] at derived
  | ok accepted =>
    simp only [checked, guard_eq_ok_iff, Except.ok.injEq] at derived
    obtain ⟨empty, rfl⟩ := derived
    exact ⟨checked, rfl, by simpa using empty⟩

theorem resolvePrevSafeSnapshot_ok
    (resolved : verifier.resolvePrevSafeSnapshot primitives job = .ok base) :
    BaseOf primitives verifier job base := by
  unfold resolvePrevSafeSnapshot at resolved
  by_cases genesis : job.prevSafeSnapshotID = []
  · rw [if_pos genesis] at resolved
    obtain ⟨validated, derived, empty⟩ := genesisSnapshot_ok resolved
    exact ⟨validated, .inr ⟨genesis, derived, empty⟩⟩
  rw [if_neg genesis] at resolved
  cases stored : verifier.snapshots job.prevSafeSnapshotID with
  | none => simp [stored] at resolved
  | some manifest =>
    cases checked : manifest.validate primitives.sum256 with
    | error reason => simp [stored, checked] at resolved
    | ok accepted =>
      simp only [stored, checked, guard_eq_ok_iff, ne_eq, not_not, Except.ok.injEq] at resolved
      obtain ⟨_, stateRoot, rfl⟩ := resolved
      exact ⟨checked, .inl ⟨genesis, stored, stateRoot⟩⟩

theorem prevSafeSnapshot_ok (found : verifier.prevSafeSnapshot primitives job = .ok base) :
    BaseOf primitives verifier job base ∧
    base.schemaSnapshotID = job.schemaSnapshotID ∧
    base.executorProfileID = job.executorProfileID := by
  simp only [prevSafeSnapshot, bind_eq_ok_iff, guard_eq_ok_iff, ne_eq, not_not] at found
  obtain ⟨resolved, resolvedOk, schemaSame, profileSame, same⟩ := found
  cases same
  exact ⟨resolvePrevSafeSnapshot_ok resolvedOk, schemaSame, profileSame⟩

end Base

variable {statement : Statement} {prepared : List PreparedStatement}

section Payloads

/-- A loaded payload has the declared length and digest. -/
theorem prepareStatement_ok {prepared : PreparedStatement}
    (loaded : verifier.prepareStatement primitives statement = .ok prepared) :
    prepared.statement = statement ∧
    (statement.payloadRef ≠ [] → verifier.payloads statement.payloadRef = some prepared.payload ∧
      prepared.payload.length = statement.payloadLength.toNat ∧
      digestBytes primitives.sum256 prepared.payload = statement.payloadHash) := by
  unfold prepareStatement at loaded
  by_cases absent : statement.payloadRef = []
  · rw [if_pos absent] at loaded
    cases loaded
    exact ⟨rfl, fun present => absurd absent present⟩
  rw [if_neg absent] at loaded
  cases fetched : verifier.payloads statement.payloadRef with
  | none => simp [fetched] at loaded
  | some payload =>
    simp only [fetched, guard_eq_ok_iff, ne_eq, not_not] at loaded
    obtain ⟨lengthSame, digestSame, same⟩ := loaded
    cases same
    exact ⟨rfl, fun _ => ⟨rfl, lengthSame, digestSame⟩⟩

end Payloads

variable {localHash : Bytes → Option Bytes}

section Schemas

/-- No mismatch: every statement carries the local schema hash. -/
theorem firstSchemaMismatch_none
    {index : Nat} (none_found : firstSchemaMismatch localHash index statements = .ok none) :
    ∀ statement ∈ statements, localHash statement.targetTableID = some statement.schemaHash := by
  induction statements generalizing index with
  | nil =>
    intro statement member
    cases member
  | cons first rest inductionHypothesis =>
    unfold firstSchemaMismatch at none_found
    cases found : localHash first.targetTableID with
    | none => simp [found] at none_found
    | some hash =>
      simp only [found] at none_found
      by_cases same : hash = first.schemaHash
      · rw [if_neg (not_not.mpr same)] at none_found
        intro statement member
        rcases mem_cons.mp member with rfl | later
        · rw [found, same]
        · exact inductionHypothesis none_found statement later
      · simp [same] at none_found

end Schemas

variable {prev next : SafeSnapshotManifest} {result : ExecutionResult} {executor : Executor α}

section Execution

variable (executed : executor.applyContext primitives prev job prepared = .ok (next, result))

include executed

/-- The block that an execution has applied to its base. -/
theorem applyContext_ok :
    ∃ materialize schemas, executor.materializer = some materialize ∧
      executor.schemasForJob primitives job = .ok schemas ∧
      Nonempty (Applied primitives executor prev job
        (prepared.map (preparedBatch materialize schemas)) next result) := by
  unfold Executor.applyContext at executed
  cases configured : executor.materializer with
  | none => simp [configured] at executed
  | some materialize =>
    simp only [configured, bind_eq_ok_iff] at executed
    obtain ⟨schemas, resolved, applied⟩ := executed
    exact ⟨materialize, schemas, rfl, resolved, applyRows_ok applied⟩

/-- Every statement of an executed block has a payload. -/
theorem applyContext_payloadRef {entry : PreparedStatement} (member : entry ∈ prepared) :
    entry.statement.payloadRef ≠ [] := by
  obtain ⟨materialize, schemas, -, -, ⟨trace⟩⟩ := applyContext_ok executed
  intro absent
  have listed :
      preparedBatch materialize schemas entry ∈ prepared.map (preparedBatch materialize schemas) :=
    mem_map_of_mem member
  obtain ⟨source, supplied, atEnd⟩ := trace.block.source listed
  simp only [preparedBatch, Option.some.injEq] at supplied
  rw [← supplied, materializedRows, if_pos absent] at atEnd
  cases atEnd

end Execution

variable {admitted : Admitted} {events : List VerifyEvent} {receipt : ExecutionReceipt}
  {attestation : ReplayAttestation}

section Verification

/-- Everything that was checked before an execution. -/
structure Admission
    (primitives : Primitives α)
    (verifier : Verifier α)
    (job : ReplayJob)
    (admitted : Admitted)
    (localHash : Bytes → Option Bytes) :
    Prop where
  shape : validateJobShape primitives job = .ok ()
  base : verifier.prevSafeSnapshot primitives job = .ok admitted.base
  later : admitted.base.safeBlockSeq < job.blockSeq
  prepared : verifier.prepareStatements primitives job.statements = .ok admitted.prepared
  hashes : verifier.localSchemaHash primitives job = .ok localHash
  mismatch : firstSchemaMismatch localHash 0 job.statements = .ok admitted.mismatch

theorem checkAdmission_ok_iff :
    verifier.checkAdmission primitives job = .ok admitted ↔
      ∃ localHash, Admission primitives verifier job admitted localHash := by
  simp only [checkAdmission, bind_eq_ok_iff, guard_eq_ok_iff]
  constructor
  · rintro ⟨_, shape, base, baseFound, later, prepared, preparedOk, localHash,
      hashes, mismatch, mismatchOk, returned⟩
    cases returned
    exact ⟨localHash, shape, baseFound, UInt64.not_le.mp later, preparedOk, hashes, mismatchOk⟩
  · rintro ⟨localHash, admission⟩
    exact ⟨(), admission.shape, _, admission.base, UInt64.not_le.mpr admission.later,
      _, admission.prepared, localHash, admission.hashes, _, admission.mismatch, rfl⟩

/-- An attestation is about the receipt that was signed for it. -/
theorem sign_answer
    (answered : (verifier.sign primitives events receipt).answer = .ok attestation) :
    attestation.receipt = receipt ∧ attestation.matchSourceRoot = receipt.matchSourceRoot := by
  unfold sign at answered
  cases signature : verifier.signer (receipt.hash primitives.sum256) with
  | none => simp [signature] at answered
  | some signed =>
    simp only [signature, guard_eq_ok_iff] at answered
    obtain ⟨_, same⟩ := answered
    cases same
    exact ⟨rfl, rfl⟩

/-- Signing adds at most the signature of the receipt to the events. -/
theorem mem_sign_events
    {event : VerifyEvent} (member : event ∈ (verifier.sign primitives events receipt).events) :
    event ∈ events ∨ event = .signed receipt := by
  unfold sign at member
  cases signature : verifier.signer (receipt.hash primitives.sum256) with
  | none =>
    simp only [signature] at member
    exact .inl member
  | some signed =>
    simp only [signature, mem_append, mem_singleton] at member
    exact member

/-- An executed block that was attested, with what it was executed on. -/
structure ExecutedOn
    (primitives : Primitives α)
    (verifier : Verifier α)
    (job : ReplayJob)
    (attestation : ReplayAttestation)
    (admitted : Admitted)
    (next : SafeSnapshotManifest)
    (result : ExecutionResult) :
    Prop where
  executed : verifier.executor.applyContext primitives admitted.base job
      admitted.prepared = .ok (next, result)
  receipt : attestation.receipt = executedReceipt primitives job admitted.prepared result
  reported : attestation.matchSourceRoot = attestation.receipt.matchSourceRoot

theorem executeAndSign_answer
    (answered : (verifier.executeAndSign primitives job admitted).answer = .ok attestation) :
    ∃ next result, ExecutedOn primitives verifier job attestation admitted next result := by
  unfold executeAndSign at answered
  cases executed :
      verifier.executor.applyContext primitives admitted.base job admitted.prepared with
  | error reason => simp [executed] at answered
  | ok outcome =>
    obtain ⟨next, result⟩ := outcome
    simp only [executed] at answered
    by_cases fits : validateExecutionResult job result = false
    · simp [fits] at answered
    · rw [if_neg fits] at answered
      obtain ⟨receipt, reported⟩ := sign_answer answered
      exact ⟨next, result, executed, receipt, receipt ▸ reported⟩

/-- The two ways to an attestation: evidence of a mismatch, or execution. -/
theorem verify_answer (answered : (verifier.verify primitives job).answer = .ok attestation) :
    ∃ admitted localHash, Admission primitives verifier job admitted localHash ∧
      ((∃ mismatch, admitted.mismatch = some mismatch ∧ attestation.receipt =
          mismatchReceipt primitives job admitted.prepared mismatch ∧
          attestation.matchSourceRoot = false) ∨
        (admitted.mismatch = none ∧ ∃ next result, ExecutedOn primitives verifier job attestation
            admitted next result)) := by
  unfold verify at answered
  cases passed : verifier.checkAdmission primitives job with
  | error reason => simp [passed] at answered
  | ok admitted =>
    obtain ⟨localHash, admission⟩ := checkAdmission_ok_iff.mp passed
    refine ⟨admitted, localHash, admission, ?_⟩
    simp only [passed] at answered
    cases found : admitted.mismatch with
    | some mismatch =>
      simp only [found] at answered
      obtain ⟨receipt, reported⟩ := sign_answer answered
      exact .inl ⟨mismatch, rfl, receipt, reported⟩
    | none =>
      simp only [found] at answered
      exact .inr ⟨rfl, executeAndSign_answer answered⟩

/-- What a matching attestation of a job rests on. -/
structure MatchJustified
    (primitives : Primitives α)
    (verifier : Verifier α)
    (job : ReplayJob)
    (attestation : ReplayAttestation) :
    Prop where
  base : ∃ base prepared next result, BaseOf primitives verifier job base ∧
      verifier.prepareStatements primitives job.statements = .ok prepared ∧
      verifier.executor.applyContext primitives base job prepared = .ok (next, result) ∧
      attestation.receipt.computedStateRoot = next.stateRoot
  payloads : ∀ statement ∈ job.statements, ∃ payload,
      verifier.payloads statement.payloadRef = some payload ∧
      digestBytes primitives.sum256 payload = statement.payloadHash ∧
      payload.length = statement.payloadLength.toNat
  schemaHashes : ∃ localHash, verifier.localSchemaHash primitives job = .ok localHash ∧
      ∀ statement ∈ job.statements, localHash statement.targetTableID = some statement.schemaHash
  idsUnique : (job.statements.map statementID).Nodup
  seqsAscending : (job.statements.map statementSeq).Pairwise (· < ·)
  rootsEqual : attestation.receipt.computedStateRoot = job.sourceClaimRoot

/-- A verification without an execution and without a matching receipt. -/
def Verification.Declined (verification : Verification) : Prop := ∀ event ∈ verification.events,
    ∃ receipt, event = .signed receipt ∧ receipt.matchSourceRoot = false

theorem applyContext_stateRoot
    (executed : executor.applyContext primitives prev job prepared = .ok (next, result)) :
    result.computedStateRoot = next.stateRoot := by
  obtain ⟨_, _, -, -, ⟨trace⟩⟩ := applyContext_ok executed
  rw [trace.resultEq]
  rfl

theorem matchJustified_of_executed
    (admission : Admission primitives verifier job admitted localHash)
    (noMismatch : admitted.mismatch = none)
    (execution : ExecutedOn primitives verifier job attestation admitted next result)
    (matched : attestation.matchSourceRoot = true) :
    MatchJustified primitives verifier job attestation := by
  have computed : attestation.receipt.computedStateRoot = result.computedStateRoot := by
    rw [execution.receipt]
    rfl
  have hashesLocal := firstSchemaMismatch_none (noMismatch ▸ admission.mismatch)
  obtain ⟨distinct, ordered⟩ := validateJobShape_statements admission.shape
  refine
    { base := ?_, payloads := ?_, schemaHashes := ?_, idsUnique := distinct
      seqsAscending := ordered, rootsEqual := ?_ }
  · refine ⟨admitted.base, admitted.prepared, next, result,
      (prevSafeSnapshot_ok admission.base).1, admission.prepared, execution.executed, ?_⟩
    rw [computed, applyContext_stateRoot execution.executed]
  · intro statement member
    obtain ⟨entry, listed, loaded⟩ :=
      exists_paired (mapM_eq_ok_iff.mp admission.prepared) member
    obtain ⟨same, checked⟩ := prepareStatement_ok loaded
    have present : statement.payloadRef ≠ [] :=
      same ▸ applyContext_payloadRef execution.executed listed
    obtain ⟨fetched, lengthSame, digestSame⟩ := checked present
    exact ⟨entry.payload, fetched, digestSame, lengthSame⟩
  · exact ⟨localHash, admission.hashes, hashesLocal⟩
  · have agreed := execution.reported.symm.trans matched
    rw [execution.receipt] at agreed
    rw [computed]
    exact of_decide_eq_true agreed

/-- A statement with a foreign schema hash keeps a job from execution. -/
theorem verify_declined (hashes : verifier.localSchemaHash primitives job = .ok localHash)
    (member : statement ∈ job.statements)
    (foreign : localHash statement.targetTableID ≠ some statement.schemaHash) :
    (verifier.verify primitives job).Declined := by
  unfold verify
  cases passed : verifier.checkAdmission primitives job with
  | error reason =>
    intro event listed
    cases listed
  | ok admitted =>
    obtain ⟨usedHash, admission⟩ := checkAdmission_ok_iff.mp passed
    have sameHash : usedHash = localHash := by
      have same := admission.hashes.symm.trans hashes
      exact Except.ok.inj same
    subst sameHash
    cases found : admitted.mismatch with
    | none =>
      have allLocal := firstSchemaMismatch_none (found ▸ admission.mismatch)
      exact absurd (allLocal statement member) foreign
    | some mismatch =>
      simp only [found]
      intro event listed
      rcases mem_sign_events listed with earlier | signed
      · cases earlier
      · exact ⟨_, signed, rfl⟩

/--
Soundness of the verifier.  A matching attestation is justified in full, and a
job that holds a statement whose schema hash is not the local one is neither
executed nor given a matching receipt.
-/
theorem verify_sound
    (primitives : Primitives α)
    (verifier : Verifier α)
    (job : ReplayJob) :
    (∀ attestation, (verifier.verify primitives job).answer = .ok attestation →
      attestation.matchSourceRoot = true → MatchJustified primitives verifier job attestation) ∧
    (∀ localHash, verifier.localSchemaHash primitives job = .ok localHash →
      ∀ statement ∈ job.statements, localHash statement.targetTableID ≠ some statement.schemaHash →
        (verifier.verify primitives job).Declined) := by
  constructor
  · intro attestation answered matched
    obtain ⟨admitted, localHash, admission, mismatched | executed⟩ := verify_answer answered
    · obtain ⟨_, _, _, unmatched⟩ := mismatched
      rw [unmatched] at matched
      cases matched
    · obtain ⟨noMismatch, next, result, execution⟩ := executed
      exact matchJustified_of_executed admission noMismatch execution matched
  · intro localHash hashes statement member foreign
    exact verify_declined hashes member foreign

end Verification

section Example

/-- The result of an execution repeats the fields of its job. -/
theorem validateExecutionResult_of_executed
    (executed : executor.applyContext primitives prev job prepared = .ok (next, result))
    (reached : result.computedStateRoot ≠ []) :
    validateExecutionResult job result = true := by
  obtain ⟨_, _, -, -, ⟨trace⟩⟩ := applyContext_ok executed
  rw [trace.resultEq] at reached ⊢
  simpa [validateExecutionResult, executionResult] using reached

/-- An admitted job whose block is applied is attested. -/
theorem verify_of_executed
    {replicaID signature : Bytes}
    (admission : Admission primitives verifier job admitted localHash)
    (noMismatch : admitted.mismatch = none)
    (executed : verifier.executor.applyContext primitives admitted.base job admitted.prepared =
      .ok (next, result))
    (reached : result.computedStateRoot ≠ [])
    (signed : ∀ hash, verifier.signer hash = some (replicaID, signature))
    (named : ¬(replicaID = [] ∨ signature = [])) :
    ∃ attestation, (verifier.verify primitives job).answer = .ok attestation ∧
      attestation.matchSourceRoot = decide (result.computedStateRoot = job.sourceClaimRoot) := by
  have admits := checkAdmission_ok_iff.mpr ⟨localHash, admission⟩
  have fits := validateExecutionResult_of_executed executed reached
  simp only [verify, admits, noMismatch, executeAndSign, executed, fits, sign, signed,
    if_neg named]
  exact ⟨_, rfl, rfl⟩

/-- A statement whose payload is its own reference. -/
def eventsStatement (statementSeq : UInt64) (payload : Bytes) : Statement :=
  { statementID := formatUint statementSeq.toNat
    statementSeq := statementSeq
    sql := ascii "INSERT INTO events FORMAT Native"
    sqlHash := digestBytes flatPrimitives.sum256 (ascii "INSERT INTO events FORMAT Native")
    settingsHash := ascii "0x"
    payloadRef := payload
    payloadHash := digestBytes flatPrimitives.sum256 payload
    payloadLength := UInt64.ofNat payload.length
    targetTableID := ascii "events"
    payloadFormat := payloadFormatClickHouseNativeData
    clientRevision := 54460
    schemaHash := tableSchemaHash flatPrimitives (ascii "net") eventsSchema }

/-- Two statements with three rows, on a stored base. -/
def eventsJob (base : SafeSnapshotManifest) (blockSeq : UInt64) (claimed : Bytes) : ReplayJob :=
  { eventsBlock blockSeq with
    prevSafeSnapshotID := base.snapshotID
    prevStateRoot := base.stateRoot
    sourceClaimRoot := claimed
    statements := [eventsStatement 1 [8, 9], eventsStatement 2 [10]] }

/-- A verifier of the one table that has stored one base. -/
def eventsVerifier (base : SafeSnapshotManifest) : Verifier Bytes :=
  { snapshots := fun _ => some base
    payloads := some
    executor := eventsExecutor
    signer := fun _ => some (ascii "replica", ascii "sig")
    schemaHashes := .forJob (ascii "net") [eventsSchema] }

/-- The loaded payloads of the two statements. -/
def eventsPrepared : List PreparedStatement :=
  [⟨eventsStatement 1 [8, 9], [8, 9]⟩, ⟨eventsStatement 2 [10], [10]⟩]

/-- The schema hash that the sample verifier holds a statement against. -/
def eventsHash (tableID : Bytes) : Option Bytes :=
  (eventsExecutor.tables.lookup tableID).map (tableSchemaHash flatPrimitives (ascii "net"))

variable (chained : Chained flatPrimitives eventsExecutor base)
  (schemas : base.schemaSnapshotID = ascii "schema-1")
  (profile : base.executorProfileID = ascii "profile-1") (blockSeq : UInt64)
  (later : base.safeBlockSeq < blockSeq)

include chained

theorem eventsJob_executed (claimed : Bytes) : ∃ next result,
    eventsExecutor.applyContext flatPrimitives base (eventsJob base blockSeq claimed)
      eventsPrepared = .ok (next, result) := by
  obtain ⟨next, result, applied⟩ : ∃ next result,
      eventsExecutor.applyRows flatPrimitives base (eventsJob base blockSeq claimed)
        [eventsInsert 1 [eventsRow 8, eventsRow 9], eventsInsert 2 [eventsRow 10]] =
          .ok (next, result) := by
    refine eventsBlock_accepted chained rfl rfl rfl ?_ ?_
    · decide
    · intro batch member
      simp only [mem_cons, not_mem_nil, or_false] at member
      rcases member with rfl | rfl
      · exact ⟨_, _, rfl, rfl⟩
      · exact ⟨_, _, rfl, rfl⟩
  exact ⟨next, result, applied⟩

omit chained in
theorem computedStateRoot_ne_nil
    {job : ReplayJob}
    (chained : Chained flatPrimitives eventsExecutor base)
    (executed : eventsExecutor.applyContext flatPrimitives base job prepared =
      .ok (next, result)) :
    result.computedStateRoot ≠ [] := by
  obtain ⟨_, _, -, -, ⟨trace⟩⟩ := applyContext_ok executed
  rw [applyContext_stateRoot executed]
  exact (trace.valid_next chained.valid).stateRoot

include schemas profile later

theorem eventsJob_admitted {claimed : Bytes} (claims : claimed ≠ []) :
    Admission flatPrimitives (eventsVerifier base) (eventsJob base blockSeq claimed)
      ⟨base, eventsPrepared, none⟩ eventsHash where
  shape := by
    have positive : blockSeq ≠ 0 := by
      rintro rfl
      exact UInt64.not_lt_zero later
    have named : ¬(base.snapshotID.isEmpty != base.stateRoot.isEmpty) = true := by
      rw [isEmpty_eq_false_iff.mpr chained.valid.snapshotID,
        isEmpty_eq_false_iff.mpr chained.valid.stateRoot]
      decide
    simp only [validateJobShape, guard_eq_ok_iff]
    refine ⟨positive, named, cons_ne_nil _ _, cons_ne_nil _ _, ?_⟩
    exact guard_eq_ok_iff.mpr ⟨claims, rfl⟩
  base := by
    have valid := SafeSnapshotManifest.validate_ok_iff.mpr chained.valid
    have stored : (eventsVerifier base).resolvePrevSafeSnapshot flatPrimitives
        (eventsJob base blockSeq claimed) = .ok base := by
      simp [resolvePrevSafeSnapshot, eventsVerifier, eventsJob, chained.valid.snapshotID, valid]
    simp only [prevSafeSnapshot, bind_eq_ok_iff, guard_eq_ok_iff, ne_eq, not_not]
    exact ⟨base, stored, schemas, profile, rfl⟩
  later := later
  prepared := rfl
  hashes := rfl
  mismatch := rfl

/-- The sample job on any base of the chain is attested, whatever root it claims. -/
theorem eventsJob_attested {claimed : Bytes} (claims : claimed ≠ []) : ∃ next result attestation,
    eventsExecutor.applyContext flatPrimitives base (eventsJob base blockSeq claimed)
        eventsPrepared = .ok (next, result) ∧
      ((eventsVerifier base).verify flatPrimitives (eventsJob base blockSeq claimed)).answer =
        .ok attestation ∧
      attestation.matchSourceRoot = decide (result.computedStateRoot = claimed) := by
  obtain ⟨next, result, executed⟩ := eventsJob_executed chained blockSeq claimed
  have reached := computedStateRoot_ne_nil chained executed
  obtain ⟨attestation, answered, reported⟩ := verify_of_executed
    (eventsJob_admitted chained schemas profile blockSeq later claims) rfl executed
    reached (fun _ => rfl) (by decide)
  exact ⟨next, result, attestation, executed, answered, reported⟩

/-- The source may claim the root that the verifier computes. -/
theorem eventsJob_matched : ∃ claimed attestation, claimed ≠ [] ∧
    ((eventsVerifier base).verify flatPrimitives (eventsJob base blockSeq claimed)).answer =
      .ok attestation ∧
    attestation.matchSourceRoot = true := by
  obtain ⟨next, result, executed⟩ := eventsJob_executed chained blockSeq []
  have reached := computedStateRoot_ne_nil chained executed
  obtain ⟨_, other, attestation, again, answered, reported⟩ :=
    eventsJob_attested chained schemas profile blockSeq later reached
  -- the claimed root takes no part in the execution
  have same : eventsExecutor.applyContext flatPrimitives base
      (eventsJob base blockSeq result.computedStateRoot) eventsPrepared = .ok (next, result) :=
    executed
  cases same.symm.trans again
  exact ⟨_, attestation, reached, answered, reported.trans (decide_eq_true rfl)⟩

omit chained schemas profile later

/-- The sample job, with a statement that was signed with another schema hash. -/
def foreignJob (base : SafeSnapshotManifest) (claimed : Bytes) : ReplayJob :=
  { eventsJob base 2 claimed with
    statements := [eventsStatement 1 [8, 9],
      { eventsStatement 2 [10] with schemaHash := ascii "0x00" }] }

/-- A block of two statements on a base with a part of its own. -/
theorem verify_sound_events : ∃ base first claimed attestation,
    eventsExecutor.applyRows flatPrimitives (eventsGenesis 0) (eventsBlock 1)
        [eventsInsert 1 [eventsRow 7]] = .ok (base, first) ∧
      ((eventsVerifier base).verify flatPrimitives (eventsJob base 2 claimed)).answer =
        .ok attestation ∧
      MatchJustified flatPrimitives (eventsVerifier base) (eventsJob base 2 claimed)
        attestation ∧
      ((eventsVerifier base).verify flatPrimitives (foreignJob base claimed)).Declined := by
  have genesis := eventsGenesis_chained 0
  obtain ⟨base, first, opened⟩ := eventsRow_accepted genesis 1 7
  obtain ⟨trace⟩ := applyRows_ok opened
  have chained := trace.chained_next genesis (by decide)
  have numbered : base.safeBlockSeq = 1 :=
    congrArg SafeSnapshotManifest.safeBlockSeq trace.nextEq
  have advanced : base.safeBlockSeq < 2 := by
    rw [numbered]
    decide
  obtain ⟨claimed, attestation, -, answered, matched⟩ := eventsJob_matched chained
    (congrArg SafeSnapshotManifest.schemaSnapshotID trace.nextEq)
    (congrArg SafeSnapshotManifest.executorProfileID trace.nextEq) 2 advanced
  refine ⟨base, first, claimed, attestation, opened, answered, ?_, ?_⟩
  · exact (verify_sound flatPrimitives (eventsVerifier base) (eventsJob base 2 claimed)).1
      attestation answered matched
  · refine (verify_sound flatPrimitives (eventsVerifier base) (foreignJob base claimed)).2
      eventsHash rfl { eventsStatement 2 [10] with schemaHash := ascii "0x00" } ?_ ?_
    · exact mem_cons_of_mem _ mem_cons_self
    · decide +kernel

end Example

end HouseGate.Replay
