import HouseGate.AsciiText
import HouseGate.CheckedSteps
import HouseGate.HexText
import HouseGate.KeyedSort
import HouseGate.SnapshotQueryJournal
import HouseGate.StableStorage
import HouseGate.Utf8Text

namespace HouseGate.PreparedOutput

open AsciiText CheckedSteps DecimalText HexText KeyedSort StableStorage SnapshotQuery Utf8Text
open Function
open WriteOutcome

/-!
# Staging the output of a one-shot query

`PreparedOutputStager.Stage` publishes the rows of a query in a cache file
whose path is a function of the statement's identity, and only then looks
whether the journal waits for them.  Recovery reads the file back against the
record.  A call keeps nothing in memory, so a crash is a call whose remaining
reads and writes fail.
-/

/-- The identity that a cache file starts with. -/
structure PreparedHeader where
  statementID : Bytes
  inputRoot : Bytes
  reservationID : Bytes
  fencingGeneration : Nat
  blockSeq : Nat
  outputRowsRoot : Bytes
  outputRowCount : Nat
  computedStateRoot : Bytes
  deriving DecidableEq

/-- The header that its JSON line reads as: texts become valid UTF-8. -/
def PreparedHeader.reread (header : PreparedHeader) : PreparedHeader := { header with
    statementID := coerce header.statementID
    inputRoot := coerce header.inputRoot
    reservationID := coerce header.reservationID
    outputRowsRoot := coerce header.outputRowsRoot
    computedStateRoot := coerce header.computedStateRoot }

def preparedHeader
    (env : SnapshotQueryEnvelope) (accepted : SnapshotQuerySubmitResult) (rowsRoot : Bytes)
    (rowCount : Nat)
    (state : Bytes) : PreparedHeader where
  statementID := env.input.binding.statementID
  inputRoot := env.inputRoot
  reservationID := env.input.binding.reservationID
  fencingGeneration := env.input.binding.fencingGeneration
  blockSeq := accepted.blockSeq
  outputRowsRoot := rowsRoot
  outputRowCount := rowCount
  computedStateRoot := state

/-- Header line, row lines and trailer. -/
structure CacheFile where
  header : PreparedHeader
  lines : List Bytes
  rows : Nat
  digest : Bytes

/-- The part of the query's job that is compared with the request. -/
structure PreparedJob where
  statementSeq : Nat
  blockSeq : Nat
  inputRoot : Bytes
  reservationID : Bytes
  fencingGeneration : Nat

/-- The outcome that a cache file records. -/
structure PreparedResult where
  executionOutcome : Bytes
  outputRowsRoot : Bytes
  outputRowCount : Nat

/-- The rows are absent when opening, reading or encoding one of them fails. -/
structure PreparedOutputRows where
  outputRowsRoot : Bytes
  rowCount : Nat
  touchedPartitionIDs : List Bytes
  openRows : Option (List Bytes)

/-- Why an output was not staged. -/
inductive StageError where
  | contextDone
  | intake (failure : IntakeError)
  | identityMismatch
  | invalidPreparedOutput
  | readRows
  | rowCountChanged
  | writeCache
  | openCache
  | headerMismatch
  | digestMismatch
  | close
  | notSequenced
  | joined (first second : StageError)
  deriving DecidableEq

/-- The arguments of a call and what its reads and writes will meet. -/
structure StageCall where
  envelope : SnapshotQueryEnvelope
  accepted : SnapshotQuerySubmitResult
  contextDone : Bool
  job : PreparedJob
  result : Option PreparedResult
  computedStateRoot : Bytes
  outputRows : Option PreparedOutputRows
  cacheWrite : WriteOutcome
  cacheReadable : Bool
  closeFails : Bool
  journalReadable : Bool
  journalWrite : WriteOutcome

/-- The readable cache files by path, and the journal by statement. -/
structure State where
  files : Bytes → Option CacheFile
  journal : Bytes → Option SnapshotQueryJournalRecord

/-- The same rows with their partitions in order. -/
def snapshotPreparedOutputMetadata :
    Option PreparedOutputRows → Except StageError PreparedOutputRows
  | none => .error .invalidPreparedOutput
  | some out =>
    let partitions := sortTexts out.touchedPartitionIDs
    if canonicalPartitions partitions then
      .ok { out with touchedPartitionIDs := partitions }
    else
      .error (.intake .noncanonicalPartitions)

variable {record : SnapshotQueryJournalRecord} {outcome : WriteOutcome}

section Stager

variable (sum256 : Bytes → Bytes) (dir : Bytes)

/-- The file name, from all that identifies the output. -/
def preparedCacheName (a b c : Bytes) (d e : Nat) : Bytes := encodeHex
    (sum256 (a ++ [0] ++ b ++ [0] ++ c ++ [0] ++ formatUint d ++ [0] ++ formatUint e)) ++
    ascii ".prepared"

def rowsDigest (lines : List Bytes) : Bytes := encodeHex (sum256 lines.flatten)

/-- A cache file against the header and digest expected of it. -/
def verifyPreparedOutput (file : Option CacheFile) (want : PreparedHeader)
    (digest : Bytes) : Except StageError Unit :=
  match file with
  | none => .error .openCache
  | some file =>
    if file.header ≠ want then
      .error .headerMismatch
    else if file.rows ≠ file.lines.length ∨
        file.digest ≠ digest ∨ rowsDigest sum256 file.lines ≠ digest then
      .error .digestMismatch
    else
      .ok ()

namespace StageCall

variable (call : StageCall)

/-- Everything that is checked before the cache file is written. -/
def checkedOutput : Except StageError (PreparedOutputRows × List Bytes) := do
  if call.contextDone then
    .error .contextDone
  else
    (validateSnapshotQueryAccepted call.envelope call.accepted).mapError .intake
    let binding := call.envelope.input.binding
    if call.job.statementSeq ≠ call.accepted.statementSeq ∨
        call.job.blockSeq ≠ call.accepted.blockSeq ∨
        call.job.inputRoot ≠ call.envelope.inputRoot ∨
        call.job.reservationID ≠ binding.reservationID ∨
        call.job.fencingGeneration ≠ binding.fencingGeneration then
      .error .identityMismatch
    else
      let metadata ← snapshotPreparedOutputMetadata call.outputRows
      match call.result with
      | none => .error .invalidPreparedOutput
      | some result =>
        if result.executionOutcome ≠ ascii "applied" ∨
            result.outputRowsRoot ≠ metadata.outputRowsRoot ∨
            result.outputRowCount ≠ metadata.rowCount ∨ call.computedStateRoot = [] then
          .error .invalidPreparedOutput
        else
          match metadata.openRows with
          | none => .error .readRows
          | some lines =>
            if lines.length ≠ metadata.rowCount then
              .error .rowCountChanged
            else
              .ok (metadata, lines)

/-- `dir` is a clean path. -/
def cachePath : Bytes :=
  let binding := call.envelope.input.binding
  dir ++ [slash] ++ preparedCacheName sum256 binding.statementID call.envelope.inputRoot
      binding.reservationID binding.fencingGeneration call.accepted.blockSeq

variable (metadata : PreparedOutputRows)

def header : PreparedHeader :=
  preparedHeader call.envelope call.accepted metadata.outputRowsRoot
    metadata.rowCount call.computedStateRoot

def cacheFile (lines : List Bytes) : CacheFile where
  header := (call.header metadata).reread
  lines := lines
  rows := lines.length
  digest := rowsDigest sum256 lines

def prepared (lines : List Bytes) : SnapshotQueryPrepared where
  statementID := call.envelope.input.binding.statementID
  inputRoot := call.envelope.inputRoot
  blockSeq := call.accepted.blockSeq
  fencingGeneration := call.envelope.input.binding.fencingGeneration
  outputRowsRoot := metadata.outputRowsRoot
  outputRowCount := metadata.rowCount
  touchedPartitionIDs := metadata.touchedPartitionIDs
  status := .pendingUnsubmitted
  capacityReservationID := []
  candidates := []
  sourceClaimRoot := []
  stage := some .preparedOutput
  computedStateRoot := call.computedStateRoot
  cachePath := call.cachePath sum256 dir
  cacheDigest := rowsDigest sum256 lines

/-- From the projection to the journal's write, which checks the record. -/
def preparedRecord
    (journal : Bytes → Option SnapshotQueryJournalRecord) (prepared : SnapshotQueryPrepared) :
    Except StageError SnapshotQueryJournalRecord := do
  (validateSnapshotQueryPrepared call.envelope call.accepted prepared).mapError .intake
  if !call.journalReadable then
    .error (.intake .readJournal)
  else
    match journal call.envelope.input.binding.statementID with
    | none => .error .notSequenced
    | some record =>
      if record.stage ≠ .sequenced ∨ !record.hasSubmit ∨ record.submit ≠ call.accepted then
        .error .notSequenced
      else
        (matchSnapshotQueryIdentity record call.envelope).mapError .intake
        let record := { record with
            stage := .preparedOutput
            preparedOutput := some prepared }
        (validateSnapshotQueryJournalRecord record).mapError .intake
        .ok record

/-- The deferred `Close` adds its own error. -/
def failed (failure : StageError) : StageError :=
  if call.closeFails then .joined failure .close else failure

end StageCall

namespace State

variable (state : State)

/-- The cache file after a write of it. -/
def publish (path : Bytes) (outcome : WriteOutcome) (file : CacheFile) : State := { state with
    files := update state.files path (outcome.apply (state.files path) (some file)) }

/-- The journal after a write of a record. -/
def save (outcome : WriteOutcome) (record : SnapshotQueryJournalRecord) : State := { state with
    journal := update state.journal record.statementID
      (outcome.apply (state.journal record.statementID) (some record)) }

end State

/-- Check an output, write its cache file and read it back. -/
def stage (call : StageCall) (state : State) : Except StageError SnapshotQueryPrepared × State :=
  match call.checkedOutput with
  | .error failure => (.error (call.failed failure), state)
  | .ok (metadata, lines) =>
    let path := call.cachePath sum256 dir
    let prepared := call.prepared sum256 dir metadata lines
    let state := state.publish path call.cacheWrite (call.cacheFile sum256 metadata lines)
    let found := if call.cacheReadable then state.files path else none
    if !call.cacheWrite.succeeded then
      (.error (call.failed .writeCache), state)
    else
      match verifyPreparedOutput sum256 found (call.header metadata) prepared.cacheDigest with
      | .error failure => (.error (call.failed failure), state)
      | .ok () =>
        if call.closeFails then
          (.error .close, state)
        else
          match call.preparedRecord state.journal prepared with
          | .error failure => (.error failure, state)
          | .ok record =>
            (if call.journalWrite.succeeded then .ok prepared
              else .error (.intake .saveJournal),
              state.save call.journalWrite record)

/-! ## Runs -/

variable (state : State)

/--
The intake writes records too, but none at the prepared stage and none over
such a record, and it calls a statement sequenced only with an answer that
names it.
-/
def intakeWrites (record : SnapshotQueryJournalRecord) : Prop :=
  record.stage ≠ .preparedOutput ∧
    (∀ earlier ∈ state.journal record.statementID, earlier.stage ≠ .preparedOutput) ∧
    (record.stage = .sequenced → record.hasSubmit = true →
      validateSnapshotQueryAccepted record.envelope record.submit = .ok ())

instance (state : State) (record : SnapshotQueryJournalRecord) :
    Decidable (intakeWrites state record) :=
  inferInstanceAs (Decidable (_ ∧ _ ∧ _))

/-- What the stager and the intake may do. -/
inductive Step where
  | stage (call : StageCall)
  | intake (record : SnapshotQueryJournalRecord) (outcome : WriteOutcome)

/-- A call of the stager, or a write of the intake. -/
def step : Step → State
  | .stage call => (stage sum256 dir call state).2
  | .intake record outcome =>
    if intakeWrites state record then state.save outcome record else state

def run (steps : List Step) : State := steps.foldl (step sum256 dir) state

/-- The header that `recoverPreparedOutput` looks for. -/
def recordHeader (record : SnapshotQueryJournalRecord)
    (prepared : SnapshotQueryPrepared) : PreparedHeader :=
  preparedHeader record.envelope record.submit prepared.outputRowsRoot
    prepared.outputRowCount prepared.computedStateRoot

/-- The last check of `recoverPreparedOutput`. -/
def verifies (record : SnapshotQueryJournalRecord) : Bool :=
  match record.preparedOutput with
  | none => false
  | some prepared =>
    verifyPreparedOutput sum256 (state.files prepared.cachePath)
      (recordHeader record prepared) prepared.cacheDigest = .ok ()

/-- Every prepared record verifies against its cache file. -/
def Durable : Prop := ∀ id record, state.journal id = some record →
    record.stage = .preparedOutput → verifies sum256 state record = true

/-- A caller brings the identity, the roots, the row count and the rows of a prepared record. -/
structure BringsSame
    (call : StageCall)
    (rows : PreparedOutputRows)
    (lines : List Bytes)
    (record : SnapshotQueryJournalRecord)
    (prepared : SnapshotQueryPrepared) :
    Prop where
  statementID : coerce call.envelope.input.binding.statementID =
      record.envelope.input.binding.statementID
  inputRoot : coerce call.envelope.inputRoot = record.envelope.inputRoot
  reservationID : coerce call.envelope.input.binding.reservationID =
      record.envelope.input.binding.reservationID
  fencingGeneration : call.envelope.input.binding.fencingGeneration =
      record.envelope.input.binding.fencingGeneration
  blockSeq : call.accepted.blockSeq = record.submit.blockSeq
  rowsRoot : coerce rows.outputRowsRoot = prepared.outputRowsRoot
  rowCount : rows.rowCount = prepared.outputRowCount
  stateRoot : coerce call.computedStateRoot = prepared.computedStateRoot
  rowLines : rowsDigest sum256 lines = prepared.cacheDigest

/-- The file of such a call reads as the record expects. -/
theorem bringsSame_iff
    {call : StageCall}
    {rows : PreparedOutputRows}
    {lines : List Bytes}
    {prepared : SnapshotQueryPrepared} :
    BringsSame sum256 call rows lines record prepared ↔
      (call.header rows).reread = recordHeader record prepared ∧
        rowsDigest sum256 lines = prepared.cacheDigest := by
  simp only [StageCall.header, recordHeader, preparedHeader, PreparedHeader.reread,
    PreparedHeader.mk.injEq]
  constructor
  · rintro ⟨statementID, inputRoot, reservationID, fencing, block, rows, count, root, digest⟩
    exact ⟨⟨statementID, inputRoot, reservationID, fencing, block, rows, count, root⟩, digest⟩
  · rintro ⟨⟨statementID, inputRoot, reservationID, fencing, block, rows, count, root⟩, digest⟩
    exact ⟨statementID, inputRoot, reservationID, fencing, block, rows, count, root, digest⟩

/--
What keeps a record readable: a call that replaces the file a prepared record
names brings the values which the record expects.
-/
def StagesSame (call : StageCall) : Prop := ∀ rows lines,
    call.checkedOutput = .ok (rows, lines) →
    call.cacheWrite.replaced = true →
    ∀ id record prepared, state.journal id = some record → record.stage = .preparedOutput →
      record.preparedOutput = some prepared →
      prepared.cachePath = call.cachePath sum256 dir →
      BringsSame sum256 call rows lines record prepared

/-! ## One call -/

/-- A sequenced record was accepted under its own identity. -/
def Sequenced : Prop := ∀ id record, state.journal id = some record →
    record.stage = .sequenced →
    record.hasSubmit = true → validateSnapshotQueryAccepted record.envelope record.submit = .ok ()

variable {sum256 dir}
variable {call : StageCall} {state}

theorem mapError_eq_ok_iff
    {change : ε → δ}
    {result : Except ε α}
    {value : α} :
    result.mapError change = .ok value ↔ result = .ok value := by
  cases result <;> simp [Except.mapError]

theorem preparedRecord_eq_ok
    {journal : Bytes → Option SnapshotQueryJournalRecord} {prepared : SnapshotQueryPrepared}
    (passed : call.preparedRecord journal prepared = .ok record) :
    ∃ earlier, journal call.envelope.input.binding.statementID = some earlier ∧
        earlier.stage = .sequenced ∧
        earlier.hasSubmit = true ∧
        earlier.submit = call.accepted ∧
        record = { earlier with
            stage := .preparedOutput
            preparedOutput := some prepared } ∧
        record.statementID = record.envelope.input.binding.statementID := by
  obtain ⟨-, passed⟩ := check_eq_ok_iff.mp passed
  obtain ⟨-, passed⟩ := guard_eq_ok_iff.mp passed
  split at passed
  · cases passed
  rename_i earlier found
  obtain ⟨isSequenced, passed⟩ := guard_eq_ok_iff.mp passed
  obtain ⟨-, passed⟩ := check_eq_ok_iff.mp passed
  obtain ⟨valid, passed⟩ := check_eq_ok_iff.mp passed
  cases passed
  simp only [not_or, not_not, Bool.not_eq_true', Bool.not_eq_false] at isSequenced
  obtain ⟨stage, hasSubmit, submit⟩ := isSequenced
  refine ⟨earlier, found, stage, hasSubmit, submit, rfl, ?_⟩
  have identified := mapError_eq_ok_iff.mp valid
  obtain ⟨-, identified⟩ := guard_eq_ok_iff.mp identified
  obtain ⟨named, -⟩ := guard_eq_ok_iff.mp identified
  exact not_not.mp (not_or.mp named).2

/-- Envelopes that one answer accepts have one header. -/
theorem header_of_accepted
    {env other : SnapshotQueryEnvelope} {accepted : SnapshotQuerySubmitResult}
    (passed : validateSnapshotQueryAccepted env accepted = .ok ())
    (otherPassed : validateSnapshotQueryAccepted other accepted = .ok ()) :
    preparedHeader env accepted = preparedHeader other accepted := by
  unfold validateSnapshotQueryAccepted at passed otherPassed
  rw [guard_eq_ok_iff, guard_eq_ok_iff] at passed otherPassed
  simp only [ne_eq, not_or, not_not] at passed otherPassed
  obtain ⟨-, ⟨root, -, -, -, reservation, fencing, -, statement, -⟩, -⟩ := passed
  funext rowsRoot rowCount state
  simp [preparedHeader, ← root, ← reservation, ← fencing, ← statement, otherPassed]

theorem verifyPreparedOutput_eq_ok_iff
    {file : CacheFile}
    {want : PreparedHeader}
    {digest : Bytes} :
    verifyPreparedOutput sum256 (some file) want digest = .ok () ↔ file.header = want ∧
        file.rows = file.lines.length ∧
        file.digest = digest ∧ rowsDigest sum256 file.lines = digest := by
  unfold verifyPreparedOutput
  rw [guard_eq_ok_iff, guard_eq_ok_iff]
  simp only [ne_eq, not_or, not_not, and_true]

variable (dir) in
theorem durable_publish_iff
    {metadata : PreparedOutputRows}
    {lines : List Bytes}
    (durable : Durable sum256 state)
    (passed : call.checkedOutput = .ok (metadata, lines)) :
    Durable sum256 (state.publish (call.cachePath sum256 dir) call.cacheWrite
        (call.cacheFile sum256 metadata lines)) ↔
      StagesSame sum256 dir state call := by
  constructor
  · intro after metadata lines checked replaced id record prepared present stage isPrepared path
    cases passed.symm.trans checked
    have verified := after id record present stage
    simp only [verifies, isPrepared, path, State.publish,
      apply, replaced, update_self, if_true,
      decide_eq_true_eq, verifyPreparedOutput_eq_ok_iff] at verified
    exact (bringsSame_iff sum256).mpr ⟨verified.1, verified.2.2.2⟩
  · intro same id record present stage
    have before := durable id record present stage
    cases isPrepared : record.preparedOutput with
    | none => simp [verifies, isPrepared] at before
    | some prepared =>
      by_cases path : prepared.cachePath = call.cachePath sum256 dir
      · cases replaced : call.cacheWrite.replaced with
        | false =>
          simpa [verifies, isPrepared, State.publish, path,
            apply, replaced] using before
        | true =>
          obtain ⟨header, digest⟩ := (bringsSame_iff sum256).mp
            (same metadata lines passed replaced id record prepared present stage isPrepared path)
          simp only [verifies, isPrepared, path, State.publish,
            apply, replaced, update_self, if_true,
            decide_eq_true_eq, verifyPreparedOutput_eq_ok_iff]
          exact ⟨header, rfl, digest, digest⟩
      · simpa [verifies, isPrepared, State.publish, update_of_ne path] using before

theorem journal_save {other : SnapshotQueryJournalRecord} {id : Bytes}
    (present : (state.save outcome record).journal id = some other) :
    other = record ∨ state.journal id = some other := by
  by_cases here : id = record.statementID
  · subst here
    simp only [State.save, update_self, apply] at present
    split at present
    · exact .inl (Option.some.inj present).symm
    · exact .inr present
  · simp only [State.save, update_of_ne here] at present
    exact .inr present

theorem durable_save_iff
    (own : record.stage = .preparedOutput → verifies sum256 state record = true)
    (free : ∀ earlier ∈ state.journal record.statementID, earlier.stage ≠ .preparedOutput) :
    Durable sum256 (state.save outcome record) ↔ Durable sum256 state := by
  constructor
  · intro after id other present stage
    have elsewhere : id ≠ record.statementID := by
      rintro rfl
      exact free other present stage
    apply after id other _ stage
    simpa [State.save, update_of_ne elsewhere] using present
  · intro durable id other present stage
    rcases journal_save present with rfl | earlier
    · exact own stage
    · exact durable id other earlier stage

theorem Sequenced.save (sequenced : Sequenced state)
    (own : record.stage = .sequenced → record.hasSubmit = true →
        validateSnapshotQueryAccepted record.envelope record.submit = .ok ()) :
    Sequenced (state.save outcome record) := by
  intro id other present
  rcases journal_save present with rfl | earlier
  · exact own
  · exact sequenced id other earlier

theorem stage_spec (sequenced : Sequenced state) (durable : Durable sum256 state) :
    Sequenced (stage sum256 dir call state).2 ∧
      (Durable sum256 (stage sum256 dir call state).2 ↔ StagesSame sum256 dir state call) := by
  unfold stage
  split
  · rename_i failure failed
    refine ⟨sequenced, fun _ metadata lines passed => ?_, fun _ => durable⟩
    rw [failed] at passed
    cases passed
  · rename_i metadata lines passed
    have published := durable_publish_iff dir durable passed
    dsimp only
    split
    · exact ⟨sequenced, published⟩
    split
    · exact ⟨sequenced, published⟩
    rename_i verified
    split
    · exact ⟨sequenced, published⟩
    split
    · exact ⟨sequenced, published⟩
    rename_i record saved
    obtain ⟨earlier, found, isSequenced, hasSubmit, submit, rfl,
      identified⟩ := preparedRecord_eq_ok saved
    have accepted := sequenced _ earlier found isSequenced hasSubmit
    rw [submit] at accepted
    obtain ⟨-, checked⟩ := guard_eq_ok_iff.mp passed
    have header := header_of_accepted accepted
      (mapError_eq_ok_iff.mp (check_eq_ok_iff.mp checked).1)
    refine ⟨sequenced.save nofun, (durable_save_iff ?_ ?_).trans published⟩
    · intro _
      split at verified
      · rw [StageCall.header, ← header, ← submit] at verified
        exact decide_eq_true verified
      · cases verified
    · intro other present
      have statement : earlier.envelope.input.binding.statementID =
          call.envelope.input.binding.statementID :=
        congrArg (fun header => (header [] 0 []).statementID) header
      rw [identified, statement] at present
      cases present.symm.trans found
      rw [isSequenced]
      nofun

variable (dir) in
theorem step_spec
    (next : Step)
    (sequenced : Sequenced state)
    (durable : Durable sum256 state) :
    Sequenced (step sum256 dir state next) ∧ (Durable sum256 (step sum256 dir state next) ↔
        ∀ call, next = .stage call → StagesSame sum256 dir state call) := by
  cases next with
  | stage call =>
    obtain ⟨kept, same⟩ := stage_spec sequenced durable
    refine ⟨kept, same.trans ⟨?_, fun every => every call rfl⟩⟩
    rintro holds _ ⟨⟩
    exact holds
  | intake record outcome =>
    have noCall :
        ∀ call, Step.intake record outcome = .stage call → StagesSame sum256 dir state call := by
      intro call absent
      cases absent
    simp only [step]
    split
    · rename_i writes
      refine ⟨sequenced.save writes.2.2, ?_⟩
      rw [durable_save_iff (fun stage => absurd stage writes.1) writes.2.1]
      exact iff_of_true durable noCall
    · exact ⟨sequenced, iff_of_true durable noCall⟩

/-- From a durable state on. -/
theorem durable_run_iff
    (steps : List Step)
    (sequenced : Sequenced state)
    (durable : Durable sum256 state) :
    (∀ count, Durable sum256 (run sum256 dir state (steps.take count))) ↔ ∀ count call,
        steps[count]? = some (.stage call) →
        StagesSame sum256 dir (run sum256 dir state (steps.take count)) call := by
  induction steps generalizing state with
  | nil =>
    simpa [run] using durable
  | cons next rest inductionHypothesis =>
    obtain ⟨kept, same⟩ := step_spec dir next sequenced durable
    constructor
    · intro every
      have after := every 1
      have later := (inductionHypothesis kept after).mp fun count => every (count + 1)
      intro count call found
      cases count with
      | zero =>
        exact same.mp after call (Option.some.inj found)
      | succ count =>
        exact later count call found
    · intro every
      have after := same.mpr fun call isNext => every 0 call (congrArg some isNext)
      have later := (inductionHypothesis kept after).mpr fun count call found =>
        every (count + 1) call found
      intro count
      cases count with
      | zero =>
        exact durable
      | succ count =>
        exact later count

end Stager

/--
Over every run, a prepared record keeps verifying exactly when each call that
replaces its cache file stages the output that the record expects.
-/
theorem prepared_output_durable_iff
    (sum256 : Bytes → Bytes)
    (dir : Bytes)
    (files : Bytes → Option CacheFile)
    (steps : List Step) :
    let run := run sum256 dir ⟨files, fun _ => none⟩
    (∀ count, Durable sum256 (run (steps.take count))) ↔ ∀ count call,
        steps[count]? = some (.stage call) → StagesSame sum256 dir (run (steps.take count)) call :=
  durable_run_iff steps (fun _ _ absent => by cases absent) fun _ _ absent => by cases absent

def stagedEnvelope : SnapshotQueryEnvelope := { (default : SnapshotQueryEnvelope) with
    input := { (default : SnapshotQueryInput) with
      binding := { (default : SnapshotQueryBinding) with
        statementID := ascii "s" } } }

def stagedAnswer : SnapshotQuerySubmitResult := { (default : SnapshotQuerySubmitResult) with
    admissionCode := 1
    statementSeq := 1
    blockSeq := 1
    sourceNode := ascii "n"
    reservation := { (default : SnapshotQueryReservation) with
      statementID := ascii "s" } }

/-- One row, staged without a failure. -/
def stagedCall (state : Bytes) : StageCall where
  envelope := stagedEnvelope
  accepted := stagedAnswer
  contextDone := false
  job := ⟨1, 1, [], [], 0⟩
  result := some ⟨ascii "applied", ascii "r", 1⟩
  computedStateRoot := state
  outputRows := some ⟨ascii "r", 1, [], some [[10]]⟩
  cacheWrite := .stored
  cacheReadable := true
  closeFails := false
  journalReadable := true
  journalWrite := .stored

def sequencedRecord : SnapshotQueryJournalRecord := { newSnapshotQueryRecord stagedEnvelope with
    stage := .sequenced
    submit := stagedAnswer
    hasSubmit := true }

/-- The same rows with another state root, staged once more. -/
theorem staging_again_breaks_record :
    let run := run id (ascii "/cache") ⟨fun _ => none, fun _ => none⟩
    let steps : List Step := [.intake sequencedRecord .stored, .stage (stagedCall (ascii "a")),
        .stage (stagedCall (ascii "b"))]
    let seen := fun count =>
      let state := run (steps.take count)
      (state.journal (ascii "s")).map fun record => (record.stage, verifies id state record)
    seen 2 = some (.preparedOutput, true) ∧ seen 3 = some (.preparedOutput, false) := by
  decide +kernel

end HouseGate.PreparedOutput
