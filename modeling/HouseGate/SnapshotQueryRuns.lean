import HouseGate.SnapshotQueryIntake

namespace HouseGate.SnapshotQuery

open EffectProgram StableStorage

/-!
# Submit authority of the snapshot-query intake

A submit is made only under the durable authorization of its envelope.  It is
made before any reconciliation of an intent as long as two things hold: no
authorization is written for a statement whose intent was already reconciled,
and an intent is never reconciled while the durable record grants a submit.
The second fails when the write of an authorization reports an error after it
became durable and `Submit` reconciles the intent it still believes in.
-/

/-- Whether some intent-only record was handed to the reconciler. -/
def fenced (history : List Event) : Bool := history.any fun
    | .reconciled _ record => record.stage.intentOnly
    | _ => false

/-- Whether recovery of the durable record may submit. -/
def grantsSubmit : Option SnapshotQueryJournalRecord → Bool
  | none => false
  | some record => record.stage.grantsSubmit

variable (crypto : Crypto)

/-- A submit under the durable authorization of exactly its envelope. -/
def SubmitsAuthorized (history : List Event) : Prop := ∀ durable env,
    .submitted durable env ∈ history →
    ∃ record, durable = some record ∧
        (record.stage = .submitAuthorized ∨ record.stage = .submitUnknown) ∧
        record.envelope = env ∧ verifyLaunchAuthorization crypto record = .ok ()

/-- No submit after a reconciliation of an intent. -/
def SubmitsBeforeFence (history : List Event) : Prop := ∀ newer durable env older,
    history = newer ++ .submitted durable env :: older → fenced older = false

/-- The condition on one event, given what happened before it. -/
def EventAllowed : Event → List Event → Prop
  | .saved record _, earlier => record.stage = .submitAuthorized → fenced earlier = false
  | .reconciled durable record, _ => record.stage.intentOnly = true → grantsSubmit durable = false
  | .submitted _ _, _ => True

/-- Every event of a history met the condition when it happened. -/
def Allowed : List Event → Prop
  | [] => True
  | event :: earlier => EventAllowed event earlier ∧ Allowed earlier

instance EventAllowed.decidable :
    (event : Event) → (earlier : List Event) → Decidable (EventAllowed event earlier)
  | .saved record _, earlier =>
    inferInstanceAs (Decidable (record.stage = .submitAuthorized → fenced earlier = false))
  | .reconciled durable record, _ =>
    inferInstanceAs (Decidable (record.stage.intentOnly = true → grantsSubmit durable = false))
  | .submitted _ _, _ => inferInstanceAs (Decidable True)

instance Allowed.decidable : (history : List Event) → Decidable (Allowed history)
  | [] => inferInstanceAs (Decidable True)
  | event :: earlier =>
    have _ := Allowed.decidable earlier
    inferInstanceAs (Decidable (EventAllowed event earlier ∧ Allowed earlier))

/-! ## Runs -/

/-- The calls of the two interfaces on one statement. -/
inductive Call where
  | submit
  | recover
  | prepare
  | persistSubmitIntent
  | authorizeForward
  | authorizeSubmit
  | cancelAndReconcile
  | persistAuthorizationUnknownAndReconcile
  | submitAfterAuthorization

/-- Forget the answer of a call. -/
def discard (program : IntakeProgram α) : IntakeProgram Unit := do
  let _ ← program
  return ()

/-- A call of a phase port, which was validated when it was built. -/
def onPhasePort (crypto : Crypto) (env : SnapshotQueryEnvelope)
    (phase : IntakeProgram α) : IntakeProgram Unit := do
  match ← validateSnapshotQueryEnvelope crypto env with
  | .error _ => return ()
  | .ok () => discard phase

def callProgram (env : SnapshotQueryEnvelope) : Call → IntakeProgram Unit
  | .submit => discard (submit crypto env)
  | .recover => discard (recover crypto)
  | .prepare => onPhasePort crypto env (prepare env)
  | .persistSubmitIntent => onPhasePort crypto env (persistSubmitIntent env)
  | .authorizeForward => onPhasePort crypto env (authorizeForward crypto env)
  | .authorizeSubmit => onPhasePort crypto env (authorizeSubmit crypto env)
  | .cancelAndReconcile => onPhasePort crypto env (cancelAndReconcile env)
  | .persistAuthorizationUnknownAndReconcile =>
    onPhasePort crypto env (persistAuthorizationUnknownAndReconcile crypto env)
  | .submitAfterAuthorization => onPhasePort crypto env (submitAfterAuthorization crypto env)

/--
One call with the inputs it met.  Inputs that end early are a crash inside the
call.
-/
structure Step where
  call : Call
  env : SnapshotQueryEnvelope
  answers : List Answer

def step (world : World) (taken : Step) : World :=
  ((callProgram crypto taken.env taken.call).exec taken.answers world).2

/-- A statement the journal has never seen. -/
def World.initial : World where
  durable := none
  history := []

def run (crypto : Crypto) (steps : List Step) : World := steps.foldl (step crypto) World.initial

/-! ## The invariant of a run -/

@[simp] theorem fenced_reconciled {durable : Option SnapshotQueryJournalRecord}
    {record : SnapshotQueryJournalRecord} {history : List Event} :
    fenced (.reconciled durable record :: history) =
      (record.stage.intentOnly || fenced history) := rfl

/-- A submit is in order at the front if nothing before it fenced. -/
theorem SubmitsBeforeFence.cons
    {event : Event}
    {history : List Event}
    (ordered : SubmitsBeforeFence history)
    (unfenced : ∀ durable env, event = .submitted durable env → fenced history = false) :
    SubmitsBeforeFence (event :: history) := by
  intro newer durable env older shape
  cases newer with
  | nil =>
    obtain ⟨same, rest⟩ := List.cons.inj shape
    subst rest
    exact unfenced durable env same
  | cons later newer =>
    obtain ⟨-, rest⟩ := List.cons.inj shape
    exact ordered newer durable env older rest

/--
The invariant.  A fence leaves a durable record behind, and under the
condition a durable record that grants a submit was never fenced.
-/
structure Sound (world : World) : Prop where
  authorized : SubmitsAuthorized crypto world.history
  recorded : fenced world.history = true → world.durable.isSome = true
  unfenced :
    Allowed world.history → grantsSubmit world.durable = true → fenced world.history = false
  ordered : Allowed world.history → SubmitsBeforeFence world.history

theorem sound_initial : Sound crypto World.initial where
  authorized := by
    intro durable env member
    cases member
  recorded := by
    intro impossible
    cases impossible
  unfenced := by
    intro allowed
    exact fun _ => rfl
  ordered := by
    intro allowed newer durable env older shape
    cases newer <;> cases shape

namespace Sound

variable {crypto} {world : World} {record : SnapshotQueryJournalRecord}
  (sound : Sound crypto world)

include sound

/-- A write keeps the invariant if it does not invent a submit right. -/
theorem save (granted : record.stage = .submitUnknown → grantsSubmit world.durable = true)
    (outcome : WriteOutcome) :
    Sound crypto
      { durable := outcome.apply world.durable (some record)
        history := .saved record outcome :: world.history } where
  authorized := by
    intro durable env member
    cases member with
    | tail _ earlier => exact sound.authorized durable env earlier
  recorded := by
    intro fence
    have before := sound.recorded fence
    cases outcome <;> simp [before]
  unfenced := by
    intro allowed grants
    have unchanged : grantsSubmit world.durable = true → fenced world.history = false :=
      sound.unfenced allowed.2
    have written : record.stage.grantsSubmit = true → fenced world.history = false := by
      intro grants
      cases stage : record.stage with
      | submitAuthorized => exact allowed.1 stage
      | submitUnknown => exact unchanged (granted stage)
      | _ => simp [stage, SnapshotQueryJournalStage.grantsSubmit] at grants
    cases outcome with
    | failedBeforeRename => exact unchanged grants
    | stored | failedAfterRename => exact written grants
  ordered := by
    intro allowed
    apply (sound.ordered allowed.2).cons
    intro durable env impossible
    cases impossible

/-- A submit under its durable authorization keeps the invariant. -/
theorem submit
    (durable : world.durable = some record)
    (grants : record.stage.grantsSubmit = true)
    (bound : verifyLaunchAuthorization crypto record = .ok ()) :
    Sound crypto { world with
        history := .submitted world.durable record.envelope :: world.history } where
  authorized := by
    intro seen env member
    cases member with
    | head =>
      refine ⟨record, durable, ?_, rfl, bound⟩
      cases stage : record.stage <;>
        simp_all [SnapshotQueryJournalStage.grantsSubmit]
    | tail _ earlier => exact sound.authorized seen env earlier
  recorded := sound.recorded
  unfenced := by
    intro allowed
    exact sound.unfenced allowed.2
  ordered := by
    intro allowed
    apply (sound.ordered allowed.2).cons
    intro _ _ _
    apply sound.unfenced allowed.2
    simpa [durable, grantsSubmit] using grants

/-- A reconciliation keeps the invariant once a record is durable. -/
theorem reconcile (present : world.durable.isSome = true) :
    Sound crypto { world with
        history := .reconciled world.durable record :: world.history } where
  authorized := by
    intro durable env member
    cases member with
    | tail _ earlier => exact sound.authorized durable env earlier
  recorded := by
    intro fence
    exact present
  unfenced := by
    intro allowed grants
    have earlier := sound.unfenced allowed.2 grants
    cases intentOnly : record.stage.intentOnly with
    | false => simp [intentOnly, earlier]
    | true =>
      -- The condition forbids exactly this reconciliation.
      have denied : grantsSubmit world.durable = false := allowed.1 intentOnly
      simp [denied] at grants
  ordered := by
    intro allowed
    apply (sound.ordered allowed.2).cons
    intro durable env impossible
    cases impossible

end Sound

/-! ## Rules of the ports -/

section Ports

variable {crypto} {world : World} {record : SnapshotQueryJournalRecord}

/-- An action that only reads keeps the invariant. -/
theorem meets_ask
    {read : Answer → World → Option α} {ensures : α → World → Prop}
    (answered : ∀ answer, ensures answer world) :
    Meets (.alone (Sound crypto)) (.ask read) ensures world := by
  intro before same sound input answer after stepped
  obtain ⟨_, -, untouched⟩ := Option.map_eq_some_iff.mp stepped
  cases untouched
  subst same
  exact ⟨sound, trivial, answered answer⟩

theorem meets_journalLoad
    {ensures : Except IntakeError (Option SnapshotQueryJournalRecord) → World → Prop}
    (failed : ∀ failure, ensures (.error failure) world)
    (loaded : ensures (.ok world.durable) world) :
    Meets (.alone (Sound crypto)) journalLoad ensures world := by
  intro before same sound input answer after stepped
  subst same
  obtain ⟨_, given, untouched⟩ := Option.map_eq_some_iff.mp stepped
  cases untouched
  refine ⟨sound, trivial, ?_⟩
  cases input with
  | load readable =>
    cases readable with
    | false =>
      cases given
      exact failed .readJournal
    | true =>
      dsimp only at given
      split at given
      · rename_i durable
        cases given
        exact durable ▸ loaded
      · rename_i record durable
        split at given
        · cases given
          exact failed _
        · cases given
          exact durable ▸ loaded
  | _ => cases given

variable {ensures : Except IntakeError Unit → World → Prop}

/-- A write either reports success and is durable, or leaves some record. -/
theorem meets_journalSave
    (granted : record.stage = .submitUnknown → grantsSubmit world.durable = true)
    (stored : ∀ after, after.durable = some record → ensures (.ok ()) after)
    (failed :
      ∀ failure after,
        (world.durable.isSome = true → after.durable.isSome = true) →
        ensures (.error failure) after) :
    Meets (.alone (Sound crypto)) (journalSave record) ensures world := by
  unfold journalSave
  split
  · exact failed _ world id
  intro before same sound input answer after stepped
  subst same
  cases input with
  | save outcome =>
    cases stepped
    refine ⟨sound.save granted outcome, trivial, ?_⟩
    cases outcome with
    | stored => exact stored _ rfl
    | failedBeforeRename => exact failed _ _ id
    | failedAfterRename => exact failed _ _ fun _ => rfl
  | _ => cases stepped

theorem meets_submitSnapshotQuery
    {ensures : Except IntakeError SnapshotQuerySubmitResult → World → Prop}
    (durable : world.durable = some record) (grants : record.stage.grantsSubmit = true)
    (bound : verifyLaunchAuthorization crypto record = .ok ())
    (answered : ∀ answer after, after.durable = some record → ensures answer after) :
    Meets (.alone (Sound crypto)) (submitSnapshotQuery record.envelope) ensures world := by
  intro before same sound input answer after stepped
  subst same
  cases input with
  | submit result =>
    cases stepped
    exact ⟨sound.submit durable grants bound, trivial, answered _ _ durable⟩
  | _ => cases stepped

theorem meets_reconcileSnapshotQueryIntent
    (present : world.durable.isSome = true) (answered : ∀ answer after, ensures answer after) :
    Meets (.alone (Sound crypto)) (reconcileSnapshotQueryIntent record) ensures world := by
  intro before same sound input answer after stepped
  subst same
  cases input with
  | reconcile succeeded =>
    cases stepped
    exact ⟨sound.reconcile present, trivial, answered _ _⟩
  | _ => cases stepped

end Ports

/-! ## Every call keeps the invariant -/

/-- A program that keeps the invariant, whatever it answers. -/
def Keeps (crypto : Crypto) (program : IntakeProgram α) (world : World) : Prop :=
  Meets (.alone (Sound crypto)) program (fun _ _ => True) world

/-- The durable record is this one and lets its envelope be submitted. -/
structure AuthorizedNow (crypto : Crypto) (record : SnapshotQueryJournalRecord)
    (world : World) : Prop where
  durable : world.durable = some record
  grants : record.stage.grantsSubmit = true
  bound : verifyLaunchAuthorization crypto record = .ok ()

section Calls

variable {crypto} {world : World} {record : SnapshotQueryJournalRecord}
  {env : SnapshotQueryEnvelope}
  {ensures : Except IntakeError Unit → World → Prop}

theorem meets_reconcileIntent
    (present : world.durable.isSome = true) (answered : ∀ answer after, ensures answer after) :
    Meets (.alone (Sound crypto)) (reconcileIntent record) ensures world := by
  refine meets_bind (meets_ask ?_)
  intro answer
  cases answer with
  | error failure => exact answered _ _
  | ok status => exact meets_reconcileSnapshotQueryIntent present answered

theorem keeps_reconcileOnly (present : world.durable.isSome = true) :
    Keeps crypto (reconcileOnly record) world := by
  refine meets_bind (meets_reconcileIntent present ?_)
  intro answer after
  cases answer <;> trivial

theorem keeps_saveAndFail {failure : IntakeError}
    (granted : record.stage = .submitUnknown → grantsSubmit world.durable = true) :
    Keeps crypto (saveAndFail record failure) world := by
  refine meets_bind (meets_journalSave granted ?_ ?_)
  · intro after durable
    trivial
  · intro failure after present
    trivial

theorem keeps_saveSequenced {result : SnapshotQuerySubmitResult} :
    Keeps crypto (saveSequenced record result) world := by
  refine meets_bind (meets_journalSave ?_ ?_ ?_)
  · intro impossible
    cases impossible
  · intro after durable
    trivial
  · intro failure after present
    trivial

theorem keeps_submitAuthorized (authorized : AuthorizedNow crypto record world) :
    Keeps crypto (submitAuthorized record) world := by
  refine meets_bind
    (meets_submitSnapshotQuery authorized.durable authorized.grants authorized.bound ?_)
  intro answer after durable
  have granted : grantsSubmit after.durable = true := by
    rw [durable]
    exact authorized.grants
  cases answer with
  | error failure => exact keeps_saveAndFail fun _ => granted
  | ok result =>
    simp only
    split
    · exact keeps_saveAndFail fun _ => granted
    · exact keeps_saveSequenced

theorem keeps_recoverPreparedOutput : Keeps crypto (recoverPreparedOutput record) world := by
  unfold recoverPreparedOutput
  split
  · trivial
  split
  · trivial
  split
  · trivial
  · trivial
  · refine meets_bind (meets_ask ?_)
    intro answer
    cases answer <;> trivial

/-- Recovery submits only from a record that grants it. -/
theorem keeps_recoverAuthorized
    (durable : world.durable = some record) (grants : record.stage.grantsSubmit = true) :
    Keeps crypto (recoverAuthorized crypto record) world := by
  unfold recoverAuthorized
  split
  · trivial
  rename_i bound
  refine meets_bind (meets_ask ?_)
  intro answer
  cases answer with
  | error failure => trivial
  | ok status =>
    simp only
    split
    · split
      · trivial
      · exact keeps_saveSequenced
    · exact keeps_submitAuthorized ⟨durable, grants, bound⟩

theorem keeps_recoverRecord (durable : world.durable = some record) :
    Keeps crypto (recoverRecord crypto record) world := by
  have present : world.durable.isSome = true := by
    simp [durable]
  unfold recoverRecord
  cases stage : record.stage with
  | submitAuthorized | submitUnknown =>
    apply keeps_recoverAuthorized durable
    simp [stage, SnapshotQueryJournalStage.grantsSubmit]
  | sequenced | rejected => trivial
  | preparedOutput => exact keeps_recoverPreparedOutput
  | _ => exact keeps_reconcileOnly present

/--
A fresh submit.  Its first write is made with no durable record, its last one
turns the intent into an authorization.
-/
theorem keeps_submitFresh : Keeps crypto (submitFresh crypto env) world := by
  refine meets_bind (meets_journalSave ?_ ?_ ?_)
  · intro impossible
    cases impossible
  · intro atSigned signed
    refine meets_bind (meets_journalSave ?_ ?_ ?_)
    · intro impossible
      cases impossible
    · intro atIntent intent
      refine meets_bind (meets_ask ?_)
      intro started
      cases started with
      | true =>
        refine meets_bind (meets_journalSave ?_ ?_ ?_)
        · intro impossible
          cases impossible
        · intro after durable
          apply keeps_submitAuthorized
          refine ⟨durable, rfl, ?_⟩
          simp [verifyLaunchAuthorization, newSnapshotQueryRecordAtIntent, newSnapshotQueryRecord]
        · intro failure after present
          refine meets_bind (meets_reconcileIntent ?_ ?_)
          · exact present (by simp [intent])
          · intro answer final
            trivial
      | false =>
        refine meets_bind (meets_journalSave ?_ ?_ ?_)
        · intro impossible
          cases impossible
        · intro after durable
          exact keeps_reconcileOnly (by simp [durable])
        · intro failure after present
          trivial
    · intro failure after present
      trivial
  · intro failure after present
    trivial

theorem keeps_submitLocked : Keeps crypto (submitLocked crypto env) world := by
  refine meets_bind (meets_journalLoad ?_ ?_)
  · intro failure
    trivial
  cases durable : world.durable with
  | none => exact keeps_submitFresh
  | some old =>
    simp only
    split
    · trivial
    · exact keeps_recoverRecord durable

theorem keeps_recover : Keeps crypto (recover crypto) world := by
  refine meets_bind (meets_ask ?_)
  intro listed
  cases listed with
  | false => trivial
  | true =>
    refine meets_bind (meets_journalLoad ?_ ?_)
    · intro failure
      trivial
    cases durable : world.durable with
    | none => trivial
    | some record =>
      simp only
      split
      · trivial
      · exact keeps_recoverRecord durable

/-- A phase of the port starts with its record durable. -/
theorem keeps_afterPrepare
    {phase : SnapshotQueryJournalRecord → IntakeProgram (Except IntakeError α)}
    (kept : ∀ record after, after.durable = some record → Keeps crypto (phase record) after) :
    Keeps crypto (afterPrepare env phase) world := by
  apply meets_bind
  refine meets_bind (meets_journalLoad ?_ ?_)
  · intro failure
    trivial
  cases durable : world.durable with
  | none =>
    refine meets_bind (meets_journalSave ?_ ?_ ?_)
    · intro impossible
      cases impossible
    · intro after durable
      exact kept _ after durable
    · intro failure after present
      trivial
  | some record =>
    simp only
    split
    · trivial
    · exact kept record world durable

theorem meets_saveAndReconcile (present : world.durable.isSome = true)
    (granted : record.stage = .submitUnknown → grantsSubmit world.durable = true)
    (answered : ∀ answer after, ensures answer after) :
    Meets (.alone (Sound crypto)) (saveAndReconcile record) ensures world := by
  refine meets_bind (meets_journalSave granted ?_ ?_)
  · intro after durable
    exact meets_reconcileIntent (by simp [durable]) answered
  · intro failure after kept
    refine meets_bind (meets_reconcileIntent (kept present) ?_)
    intro answer final
    exact answered _ _

theorem keeps_saveAuthorization
    (present : world.durable.isSome = true) (authorizes : record.stage ≠ .submitUnknown) :
    Keeps crypto (saveAuthorization record) world := by
  refine meets_bind (meets_journalSave ?_ ?_ ?_)
  · intro impossible
    exact absurd impossible authorizes
  · intro after durable
    trivial
  intro failure after kept
  refine meets_bind (meets_saveAndReconcile (kept present) ?_ ?_)
  · intro impossible
    cases impossible
  · intro answer final
    trivial

theorem keeps_persistSubmitIntent : Keeps crypto (persistSubmitIntent env) world := by
  apply keeps_afterPrepare
  intro record after durable
  split
  · refine meets_journalSave ?_ ?_ ?_
    · intro impossible
      cases impossible
    · intro final stored
      trivial
    · intro failure final kept
      trivial
  · trivial
  · trivial

theorem keeps_authorizeForward : Keeps crypto (authorizeForward crypto env) world := by
  apply keeps_afterPrepare
  intro record after durable
  split
  · trivial
  · trivial
  · apply keeps_saveAuthorization
    · simp [durable]
    · simp
  · trivial

theorem keeps_authorizeSubmit : Keeps crypto (authorizeSubmit crypto env) world := by
  apply keeps_afterPrepare
  intro record after durable
  have authorizes : Keeps crypto (authorizeSubmitLocked crypto env record) after := by
    apply keeps_saveAuthorization
    · simp [durable]
    · simp
  split
  · trivial
  · split
    · trivial
    · exact authorizes
  · exact authorizes
  · trivial

theorem keeps_persistCancelAndReconcile :
    Keeps crypto (persistCancelAndReconcile record) world := by
  refine meets_bind (meets_journalSave ?_ ?_ ?_)
  · intro impossible
    cases impossible
  · intro after durable
    apply meets_reconcileIntent
    · simp [durable]
    · intro answer final
      trivial
  · intro failure after kept
    trivial

theorem keeps_cancelAndReconcile : Keeps crypto (cancelAndReconcile env) world := by
  apply keeps_afterPrepare
  intro record after durable
  have present : after.durable.isSome = true := by
    simp [durable]
  have reconciles : Keeps crypto (reconcileIntent record) after := by
    apply meets_reconcileIntent present
    intro answer final
    trivial
  split
  · exact keeps_persistCancelAndReconcile
  · exact keeps_persistCancelAndReconcile
  · exact reconciles
  · exact reconciles
  · trivial

theorem keeps_persistAuthorizationUnknownAndReconcile :
    Keeps crypto (persistAuthorizationUnknownAndReconcile crypto env) world := by
  apply keeps_afterPrepare
  intro record after durable
  have present : after.durable.isSome = true := by
    simp [durable]
  have reconciles : Keeps crypto (reconcileIntent record) after := by
    apply meets_reconcileIntent present
    intro answer final
    trivial
  split
  · apply meets_saveAndReconcile present
    · intro impossible
      cases impossible
    · intro answer final
      trivial
  · rename_i stage
    apply meets_saveAndReconcile present
    · intro unknown
      simp [durable, grantsSubmit, stage, SnapshotQueryJournalStage.grantsSubmit]
    · intro answer final
      trivial
  · exact reconciles
  · exact reconciles
  · trivial

theorem keeps_submitAfterAuthorization :
    Keeps crypto (submitAfterAuthorization crypto env) world := by
  apply keeps_afterPrepare
  intro record after durable
  split
  · trivial
  · rename_i stage
    split
    · trivial
    rename_i bound
    have grants : record.stage.grantsSubmit = true := by
      simp [stage, SnapshotQueryJournalStage.grantsSubmit]
    apply meets_bind
    apply (keeps_submitAuthorized ⟨durable, grants, bound⟩).weaken
    intro result final _
    refine meets_bind (meets_journalLoad ?_ ?_)
    · intro failure
      cases result <;> trivial
    · cases result <;> trivial
  · trivial

theorem keeps_validateSnapshotQueryEnvelope (answered : ∀ answer, ensures answer world) :
    Meets (.alone (Sound crypto)) (validateSnapshotQueryEnvelope crypto env) ensures world := by
  unfold validateSnapshotQueryEnvelope
  split
  · exact answered _
  split
  · exact answered _
  · split
    · exact answered _
    · exact meets_ask answered

theorem keeps_discard {program : IntakeProgram α} (kept : Keeps crypto program world) :
    Keeps crypto (discard program) world := by
  apply meets_bind
  apply kept.weaken
  intro answer after _
  trivial

theorem keeps_onPhasePort {phase : IntakeProgram α} (kept : Keeps crypto phase world) :
    Keeps crypto (onPhasePort crypto env phase) world := by
  refine meets_bind (keeps_validateSnapshotQueryEnvelope ?_)
  intro answer
  cases answer with
  | error failure => trivial
  | ok value => exact keeps_discard kept

theorem keeps_submit : Keeps crypto (submit crypto env) world := by
  refine meets_bind (keeps_validateSnapshotQueryEnvelope ?_)
  intro answer
  cases answer with
  | error failure => trivial
  | ok value => exact keeps_submitLocked

theorem keeps_callProgram (call : Call) : Keeps crypto (callProgram crypto env call) world := by
  cases call with
  | submit => exact keeps_discard keeps_submit
  | recover => exact keeps_discard keeps_recover
  | prepare =>
    apply keeps_onPhasePort
    apply keeps_afterPrepare
    intro record after durable
    trivial
  | persistSubmitIntent => exact keeps_onPhasePort keeps_persistSubmitIntent
  | authorizeForward => exact keeps_onPhasePort keeps_authorizeForward
  | authorizeSubmit => exact keeps_onPhasePort keeps_authorizeSubmit
  | cancelAndReconcile => exact keeps_onPhasePort keeps_cancelAndReconcile
  | persistAuthorizationUnknownAndReconcile =>
    exact keeps_onPhasePort keeps_persistAuthorizationUnknownAndReconcile
  | submitAfterAuthorization => exact keeps_onPhasePort keeps_submitAfterAuthorization

end Calls

theorem sound_foldl
    {crypto : Crypto}
    {world : World}
    (sound : Sound crypto world)
    (steps : List Step) :
    Sound crypto (steps.foldl (step crypto) world) := by
  induction steps generalizing world with
  | nil => exact sound
  | cons taken steps inductionHypothesis =>
    exact inductionHypothesis ((keeps_callProgram taken.call).exec_invariant sound taken.answers)

/--
Every submit of every run is made under the durable authorization of its
envelope, and in a run that meets the condition none follows a reconciliation
of an intent.
-/
theorem submits_authorized_and_before_fence
    (crypto : Crypto)
    (steps : List Step) :
    SubmitsAuthorized crypto (run crypto steps).history ∧
      (Allowed (run crypto steps).history → SubmitsBeforeFence (run crypto steps).history) := by
  have sound := sound_foldl (sound_initial crypto) steps
  exact ⟨sound.authorized, sound.ordered⟩

/-! ## An authorization that became durable although its write failed -/

/-- Digests that keep the bytes they are given. -/
def plainCrypto : Crypto where
  inputRoot := fun input => some input.sql
  digestString := id
  verifySignature := fun _ _ _ => true

def sampleEnvelope : SnapshotQueryEnvelope :=
  let binding : SnapshotQueryBinding := { (default : SnapshotQueryBinding) with
      statementID := [1]
      reservationID := [2]
      fencingGeneration := 1 }
  { input := { binding := binding, sql := [3], readSet := default }
    inputRoot := [3]
    userJWS := [4] }

def notFound : SnapshotQueryStatus := default

/--
`Submit` whose authorization write fails after its rename reconciles the
intent; after a restart `Recover` finds the authorization and submits.
-/
def uncertainAuthorization : List Step :=
  [{ call := .submit
     env := sampleEnvelope
     answers := [.validator true, .load true, .save .stored, .save .stored,
         .gate true, .save .failedAfterRename,
         .lookup (some notFound), .reconcile true] },
    { call := .recover
      env := sampleEnvelope
      answers := [.list true, .load true, .lookup (some notFound), .submit none] }]

/-- A write that failed after its rename leaves the submission to recovery. -/
theorem submit_follows_fence :
    ¬ SubmitsBeforeFence (run plainCrypto uncertainAuthorization).history := by
  intro ordered
  have unfenced :=
    ordered [] (run plainCrypto uncertainAuthorization).durable
      sampleEnvelope
      (run plainCrypto uncertainAuthorization).history.tail rfl
  exact absurd unfenced (by decide)

/-- The same calls with a write that is stored. -/
def storedAuthorization : List Step :=
  [{ call := .submit
     env := sampleEnvelope
     answers := [.validator true, .load true, .save .stored, .save .stored,
         .gate true, .save .stored, .submit none] },
    { call := .recover
      env := sampleEnvelope
      answers := [.list true, .load true, .lookup (some notFound), .submit none] }]

/--
`Submit` whose authorization write fails before its rename reconciles the
intent, and so do `Recover` and a second `Submit` after it.
-/
def failedAuthorization : List Step :=
  [{ call := .submit
     env := sampleEnvelope
     answers := [.validator true, .load true, .save .stored, .save .stored,
         .gate true, .save .failedBeforeRename,
         .lookup (some notFound), .reconcile true] },
    { call := .recover
      env := sampleEnvelope
      answers := [.list true, .load true, .lookup (some notFound), .reconcile true] },
    { call := .submit
      env := sampleEnvelope
      answers := [.validator true, .load true, .lookup (some notFound), .reconcile true] }]

/-- One run submits twice, and the other hands its intent to the reconciler. -/
theorem authorizations_before_fence :
    SubmitsBeforeFence (run plainCrypto storedAuthorization).history ∧
      fenced (run plainCrypto failedAuthorization).history = true ∧
      SubmitsBeforeFence (run plainCrypto failedAuthorization).history := by
  refine ⟨?_, by decide, ?_⟩
  · exact (submits_authorized_and_before_fence plainCrypto storedAuthorization).2 (by decide)
  · exact (submits_authorized_and_before_fence plainCrypto failedAuthorization).2 (by decide)

end HouseGate.SnapshotQuery
