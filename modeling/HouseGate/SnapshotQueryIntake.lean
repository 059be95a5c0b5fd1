import HouseGate.EffectProgram
import HouseGate.SnapshotQueryJournal
import HouseGate.StableStorage

namespace HouseGate.SnapshotQuery

open DecimalText EffectProgram StableStorage

/-!
# The snapshot-query intake

`Submit`, `Recover` and the calls of the phase port, for one statement id over
one journal.  Every call holds the statement lock from its first journal read
to its end, so a run is a sequence of calls, each of which a crash may cut
short.  A phase port reloads the durable record at the start of every call;
its own memory therefore carries nothing from one call to the next.

Port answers and the outcome of every journal write are inputs.  A write may
report an error although the new record is already durable.
-/

/--
What the intake did to the outside; a call of the sequencer or the reconciler
comes with the record that was durable at that instant.
-/
inductive Event where
  | saved (record : SnapshotQueryJournalRecord) (outcome : WriteOutcome)
  | submitted (durable : Option SnapshotQueryJournalRecord) (envelope : SnapshotQueryEnvelope)
  | reconciled (durable : Option SnapshotQueryJournalRecord) (record : SnapshotQueryJournalRecord)

/-- The journal entry of the statement and the history, latest event first. -/
structure World where
  durable : Option SnapshotQueryJournalRecord
  history : List Event

/-- What the intake's collaborators answer. -/
inductive Answer where
  | validator (accepted : Bool)
  | list (listed : Bool)
  | load (readable : Bool)
  | save (outcome : WriteOutcome)
  | gate (started : Bool)
  | lookup (status : Option SnapshotQueryStatus)
  | submit (result : Option SnapshotQuerySubmitResult)
  | reconcile (succeeded : Bool)
  | cache (verified : Bool)

abbrev IntakeProgram := Program World Answer

/-- What a client is told of its query. -/
structure SnapshotQueryIntakeResult where
  statementID : Bytes
  inputRoot : Bytes
  blockSeq : Nat

/-- The result that accompanies an error or a finished reconciliation. -/
def SnapshotQueryIntakeResult.empty : SnapshotQueryIntakeResult := ⟨[], [], 0⟩

variable (record : SnapshotQueryJournalRecord)

def resultFromSubmit (submit : SnapshotQuerySubmitResult) : SnapshotQueryIntakeResult where
  statementID := record.statementID
  inputRoot := record.envelope.inputRoot
  blockSeq := submit.blockSeq

/-! ## Ports -/

/-- A port that only answers whether it succeeded. -/
def answerOf (failure : IntakeError) (succeeded : Bool) : Except IntakeError Unit :=
  if succeeded then .ok () else .error failure

def validateStatementV3 : IntakeProgram (Except IntakeError Unit) := .ask fun
    | .validator accepted, _ => some (answerOf .validateJWS accepted)
    | _, _ => none

/-- `Journal.Load`, which checks the record again. -/
def journalLoad : IntakeProgram (Except IntakeError (Option SnapshotQueryJournalRecord)) := .ask fun
    | .load false, _ => some (.error .readJournal)
    | .load true, world =>
      match world.durable with
      | none => some (.ok none)
      | some record =>
        match validateSnapshotQueryJournalRecord record with
        | .error failure => some (.error failure)
        | .ok () => some (.ok (some record))
    | _, _ => none

/-- `Journal.Save`: an invalid record is refused before anything is written. -/
def journalSave : IntakeProgram (Except IntakeError Unit) :=
  match validateSnapshotQueryJournalRecord record with
  | .error failure => pure (.error failure)
  | .ok () =>
    .act fun
      | .save outcome, world =>
        some (answerOf .saveJournal outcome.succeeded, { world with
            durable := outcome.apply world.durable (some record)
            history := .saved record outcome :: world.history })
      | _, _ => none

def tryStart : IntakeProgram Bool := .ask fun
    | .gate started, _ => some started
    | _, _ => none

/-- `LookupSnapshotQuery`; it reads the sequencer only. -/
def lookup : IntakeProgram (Except IntakeError SnapshotQueryStatus) := .ask fun
    | .lookup none, _ => some (.error .sequencerLookup)
    | .lookup (some status), _ => some (.ok status)
    | _, _ => none

def submitSnapshotQuery (env : SnapshotQueryEnvelope) :
    IntakeProgram (Except IntakeError SnapshotQuerySubmitResult) :=
  .act fun
    | .submit result, world =>
      some (match result with
          | none => .error .sequencerSubmit
          | some result => .ok result,
          { world with
            history := .submitted world.durable env :: world.history })
    | _, _ => none

def reconcileSnapshotQueryIntent : IntakeProgram (Except IntakeError Unit) :=
  .act fun
    | .reconcile succeeded, world =>
      some (answerOf .reconcileIntent succeeded, { world with
          history := .reconciled world.durable record :: world.history })
    | _, _ => none

/-- `verifyPreparedOutput`: whether the cache file matches its record. -/
def verifyPreparedOutput : IntakeProgram (Except IntakeError Unit) := .ask fun
    | .cache verified, _ => some (answerOf .preparedCache verified)
    | _, _ => none

/-! ## Submit and Recover -/

section Intake

variable (crypto : Crypto)
  (env : SnapshotQueryEnvelope)

/-- The input root and the user's token. -/
def validateSnapshotQueryEnvelope : IntakeProgram (Except IntakeError Unit) :=
  if env.userJWS = [] then
    pure (.error .originalJWSRequired)
  else
    match crypto.inputRoot env.input with
    | none => pure (.error .invalidInput)
    | some root =>
      if root ≠ env.inputRoot then pure (.error .inputRootMismatch) else validateStatementV3

/-- Without ingress freshness and today's signer allowlist. -/
def validateSnapshotQueryEnvelopeHistorical : Except IntakeError Unit :=
  match crypto.inputRoot env.input with
  | none => .error .invalidInput
  | some root =>
    if root ≠ env.inputRoot then
      .error .inputRootMismatch
    else if env.userJWS = [] then
      .error .originalJWSRequired
    else if crypto.verifySignature env.userJWS env.input.binding root then
      .ok ()
    else
      .error .verifyHistoricalJWS

/-- `errors.Join` of an error and the error of a later call, if any. -/
def joinErrors (failure : IntakeError) : Except IntakeError Unit → IntakeError
  | .ok () => failure
  | .error later => .joined failure later

variable (record : SnapshotQueryJournalRecord)

/-- Look the statement up, then reconcile. -/
def reconcileIntent : IntakeProgram (Except IntakeError Unit) := do
  match ← lookup with
  | .error failure => return .error failure
  | .ok _ => reconcileSnapshotQueryIntent record

variable (result : SnapshotQuerySubmitResult)

/-- The record after the sequencer refused or answered something unknown. -/
def recordAfterRefusal : SnapshotQueryJournalRecord :=
  if isSnapshotQueryTerminalRejection result.admissionCode then
    { record with
      submit := result
      stage := .rejected
      hasSubmit := true
      submitUnknown := false }
  else
    { record with
      submit := result
      stage := .submitUnknown
      hasSubmit := true
      submitUnknown := true }

/-- The record after the sequencer accepted the statement. -/
def recordSequenced : SnapshotQueryJournalRecord :=
  { record with
    stage := .sequenced
    submit := result
    hasSubmit := true
    submitUnknown := false }

/-- Save a record and answer an error that is already known. -/
def saveAndFail (failure : IntakeError) :
    IntakeProgram (Except IntakeError SnapshotQueryIntakeResult) := do
  let saved ← journalSave record
  return .error (joinErrors failure saved)

/-- Save a sequenced record and answer its result. -/
def saveSequenced : IntakeProgram (Except IntakeError SnapshotQueryIntakeResult) := do
  match ← journalSave (recordSequenced record result) with
  | .error failure => return .error failure
  | .ok () => return .ok (resultFromSubmit record result)

/-- Submit, and save what came of it. -/
def submitAuthorized : IntakeProgram (Except IntakeError SnapshotQueryIntakeResult) := do
  match ← submitSnapshotQuery record.envelope with
  | .error failure =>
    saveAndFail { record with stage := .submitUnknown, submitUnknown := true } failure
  | .ok result =>
    match validateSnapshotQueryAccepted record.envelope result with
    | .error failure => saveAndFail (recordAfterRefusal record result) failure
    | .ok () => saveSequenced record result

/-- A staged output is re-admitted without any port call but the cache. -/
def recoverPreparedOutput : IntakeProgram (Except IntakeError SnapshotQueryIntakeResult) :=
  match record.preparedOutput with
  | none => pure (.error .preparedNotSequenced)
  | some prepared =>
    if !record.hasSubmit || record.submitUnknown then
      pure (.error .preparedNotSequenced)
    else
      match
        validateSnapshotQueryAccepted record.envelope record.submit,
        validateSnapshotQueryPrepared record.envelope record.submit prepared with
      | .error failure, _ => pure (.error failure)
      | .ok (), .error failure => pure (.error failure)
      | .ok (), .ok () => do
          match ← verifyPreparedOutput with
          | .error failure => return .error failure
          | .ok () => return .ok (resultFromSubmit record record.submit)

/-- A call of the reconciler that answers no result. -/
def reconcileOnly : IntakeProgram (Except IntakeError SnapshotQueryIntakeResult) := do
  match ← reconcileIntent record with
  | .error failure => return .error failure
  | .ok () => return .ok .empty

/-- The branch of `recoverRecord` for a record that grants a submit. -/
def recoverAuthorized : IntakeProgram (Except IntakeError SnapshotQueryIntakeResult) :=
  match verifyLaunchAuthorization crypto record with
  | .error failure => pure (.error failure)
  | .ok () => do
      match ← lookup with
      | .error failure => return .error failure
      | .ok status =>
        if status.found then
          match validateSnapshotQueryAccepted record.envelope status.accepted with
          | .error failure => return .error failure
          | .ok () => saveSequenced record status.accepted
        else
          submitAuthorized record

/-- Go on from the stage of the record. -/
def recoverRecord : IntakeProgram (Except IntakeError SnapshotQueryIntakeResult) :=
  match record.stage with
  | .signed | .submitIntent | .forwardAuthorized
  | .submitAuthorizationUnknown | .cancelPending | .released => reconcileOnly record
  | .sequenced => pure (.ok (resultFromSubmit record record.submit))
  | .rejected => pure (.error (snapshotQueryAdmissionError record.submit))
  | .submitAuthorized | .submitUnknown => recoverAuthorized crypto record
  | .preparedOutput => recoverPreparedOutput record

/-- The part of `submitLocked` for a statement without a durable record. -/
def submitFresh : IntakeProgram (Except IntakeError SnapshotQueryIntakeResult) := do
  match ← journalSave (newSnapshotQueryRecord env) with
  | .error failure => return .error failure
  | .ok () =>
    let intent := newSnapshotQueryRecordAtIntent env
    match ← journalSave intent with
    | .error failure => return .error failure
    | .ok () =>
      if ← tryStart then
        let authorized := { intent with
            stage := .submitAuthorized
            forwardAuthorization := some (snapshotQueryLaunchAuthorization crypto env)
            launchAuthorization := some (snapshotQueryLaunchAuthorization crypto env) }
        match ← journalSave authorized with
        | .error failure =>
          -- Persistence may be uncertain: only the last definitely
          -- durable intent boundary is reconciled.
          let reconciled ← reconcileIntent intent
          return .error (joinErrors failure reconciled)
        | .ok () => submitAuthorized authorized
      else
        let cancelled := { intent with
            stage := .cancelPending
            preSubmitCancelIntent := true
            releaseReconciliationDebt := true }
        match ← journalSave cancelled with
        | .error failure => return .error failure
        | .ok () => reconcileOnly cancelled

/-- Start a statement or go on with it. -/
def submitLocked : IntakeProgram (Except IntakeError SnapshotQueryIntakeResult) := do
  match ← journalLoad with
  | .error failure => return .error failure
  | .ok (some old) =>
    match matchSnapshotQueryIdentity old env with
    | .error failure => return .error failure
    | .ok () => recoverRecord crypto old
  | .ok none => submitFresh crypto env

/-- `Submit` with a gate. -/
def submit : IntakeProgram (Except IntakeError SnapshotQueryIntakeResult) := do
  match ← validateSnapshotQueryEnvelope crypto env with
  | .error failure => return .error failure
  | .ok () => submitLocked crypto env

/-- `Journal.List` as far as this statement is concerned. -/
def journalList : IntakeProgram Bool := .ask fun
    | .list listed, world => some (listed && world.durable.isSome)
    | _, _ => none

/--
`Recover` for this statement.  The listing is only discovery, and an earlier
error may end the loop before the statement is reached.
-/
def recover : IntakeProgram (Except IntakeError SnapshotQueryIntakeResult) := do
  if ← journalList then
    match ← journalLoad with
    | .error failure => return .error failure
    | .ok none => return .ok .empty
    | .ok (some record) =>
      match validateSnapshotQueryEnvelopeHistorical crypto record.envelope with
      | .error failure => return .error failure
      | .ok () => recoverRecord crypto record
  else
    return .ok .empty

/-! ## The phase port -/

/-- The record of the statement. -/
def prepareLocked : IntakeProgram (Except IntakeError SnapshotQueryJournalRecord) := do
  match ← journalLoad with
  | .error failure => return .error failure
  | .ok (some record) =>
    match matchSnapshotQueryIdentity record env with
    | .error failure => return .error failure
    | .ok () => return .ok record
  | .ok none =>
    match ← journalSave (newSnapshotQueryRecord env) with
    | .error failure => return .error failure
    | .ok () => return .ok (newSnapshotQueryRecord env)

/-- A phase that begins with the durable record of the port's envelope. -/
def afterPrepare (env : SnapshotQueryEnvelope)
    (phase : SnapshotQueryJournalRecord → IntakeProgram (Except IntakeError α)) :
    IntakeProgram (Except IntakeError α) := do
  match ← prepareLocked env with
  | .error failure => return .error failure
  | .ok record => phase record

def prepare : IntakeProgram (Except IntakeError Unit) :=
  afterPrepare env fun _ => pure (.ok ())

/-- From signed to intent. -/
def persistSubmitIntent : IntakeProgram (Except IntakeError Unit) :=
  afterPrepare env fun record =>
    match record.stage with
    | .signed => journalSave { record with stage := .submitIntent }
    | .submitIntent => pure (.ok ())
    | stage => pure (.error (.cannotPersistIntent stage))

/-- Reconcile after a save that may or may not have failed. -/
def saveAndReconcile : IntakeProgram (Except IntakeError Unit) := do
  match ← journalSave record with
  | .error failure =>
    let reconciled ← reconcileIntent record
    return .error (joinErrors failure reconciled)
  | .ok () => reconcileIntent record

def persistAuthorizationPersistenceUnknownAndReconcileLocked :
    IntakeProgram (Except IntakeError Unit) :=
  saveAndReconcile { record with
      stage := .submitAuthorizationUnknown
      submitUnknown := false }

/-- Save an authorization; a failed write becomes a durable ambiguity. -/
def saveAuthorization : IntakeProgram (Except IntakeError Unit) := do
  match ← journalSave record with
  | .error failure =>
    let unknown ← persistAuthorizationPersistenceUnknownAndReconcileLocked record
    return .error (joinErrors failure unknown)
  | .ok () => return .ok ()

/-- From intent to forward authorization. -/
def authorizeForward : IntakeProgram (Except IntakeError Unit) :=
  afterPrepare env fun record =>
    match record.stage with
    | .forwardAuthorized | .submitAuthorized => pure (verifyForwardAuthorization crypto record)
    | .submitIntent =>
      saveAuthorization { record with
          stage := .forwardAuthorized
          forwardAuthorization := some (snapshotQueryLaunchAuthorization crypto env) }
    | stage => pure (.error (.cannotAuthorizeForward stage))

def authorizeSubmitLocked (record : SnapshotQueryJournalRecord) :
    IntakeProgram (Except IntakeError Unit) :=
  saveAuthorization { record with
      stage := .submitAuthorized
      launchAuthorization := some (snapshotQueryLaunchAuthorization crypto env) }

/-- From intent or forward to submit authorization. -/
def authorizeSubmit : IntakeProgram (Except IntakeError Unit) :=
  afterPrepare env fun record =>
    match record.stage with
    | .submitAuthorized => pure (verifyLaunchAuthorization crypto record)
    | .forwardAuthorized =>
      match verifyForwardAuthorization crypto record with
      | .error failure => pure (.error failure)
      | .ok () => authorizeSubmitLocked crypto env record
    | .submitIntent => authorizeSubmitLocked crypto env record
    | stage => pure (.error (.cannotAuthorizeSubmit stage))

/-- Make a cancellation durable before its reconciliation begins. -/
def persistCancelAndReconcile : IntakeProgram (Except IntakeError Unit) := do
  let cancelled := { record with
      stage := .cancelPending
      preSubmitCancelIntent := true
      releaseReconciliationDebt := true }
  match ← journalSave cancelled with
  | .error failure => return .error failure
  | .ok () => reconcileIntent cancelled

/-- Give an unauthorized statement up. -/
def cancelAndReconcile : IntakeProgram (Except IntakeError Unit) :=
  afterPrepare env fun record =>
    match record.stage with
    | .signed | .submitIntent => persistCancelAndReconcile record
    | .cancelPending | .released => reconcileIntent record
    | stage => pure (.error (.cannotCancel stage))

def persistAuthorizationUnknownAndReconcile : IntakeProgram (Except IntakeError Unit) :=
  afterPrepare env fun record =>
    match record.stage with
    | .forwardAuthorized =>
      saveAndReconcile { record with
          stage := .submitAuthorizationUnknown
          submitUnknown := false }
    | .submitAuthorized =>
      saveAndReconcile { record with
          stage := .submitUnknown
          submitUnknown := true
          launchAuthorization := record.launchAuthorization.orElse fun _ =>
              some (snapshotQueryLaunchAuthorization crypto env) }
    | .submitAuthorizationUnknown | .submitUnknown => reconcileIntent record
    | stage => pure (.error (.cannotPersistUnknown stage))

/-- The final reload only refreshes the memory of the port. -/
def submitAfterAuthorization : IntakeProgram (Except IntakeError SnapshotQueryIntakeResult) :=
  afterPrepare env fun record =>
    match record.stage with
    | .sequenced => pure (.ok (resultFromSubmit record record.submit))
    | .submitAuthorized =>
      match verifyLaunchAuthorization crypto record with
      | .error failure => pure (.error failure)
      | .ok () => do
          let result ← submitAuthorized record
          match result, ← journalLoad with
          | .ok _, .error failure => return .error failure
          | _, _ => return result
    | stage => pure (.error (.submitRequiresAuthorization stage))

end Intake

end HouseGate.SnapshotQuery
