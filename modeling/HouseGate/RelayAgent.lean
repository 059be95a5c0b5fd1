import HouseGate.RelayFailover

namespace HouseGate.Relay

/-!
# Queries under an ownership plan

An agent-prepared query holds the active slot while a worker prepares it and
three stages carry it to the upstream: the remaining hooks, the forward intent
and, once the forward gate is won, the authorization.  A query-only query is
run by the host and answered here.  Whatever the plan, the client pump stays
the only reader of the client's packets.
-/

/-! ## The agent's gate -/

/-- A number for a new preparation. -/
def nextAgentPrepareGeneration : Code Nat := atomically fun state =>
    (state.agentGeneration + 1, { state with agentGeneration := state.agentGeneration + 1 })

/-- The query of the preparation is active and nobody canceled it. -/
def State.agentLive (state : State) (preparation : Preparation) : Bool :=
  (state.active.any fun active => !active.canceled && active.id == preparation.queryID) &&
    state.agentGeneration == preparation.generation

/-- The query may still be prepared. -/
def agentPrepareLive (preparation : Preparation) : Code Bool :=
  observe fun state => state.agentLive preparation

variable (config : Config) (context : QueryContext) (preparation : Preparation)

/-- A live query passes the gate to the upstream. -/
def winAgentForwardGate : Code Bool := atomically fun state =>
    if state.agentLive preparation then
      (true, { state with
          agentForwardGeneration := preparation.generation
          history := .forwardGateWon context.number :: state.history })
    else
      (false, state)

/-- Tell the plan of the cancellation. -/
def reconcileAgentPrepareCancel : Code Unit := modify fun state =>
    if preparation.plan.hasReconcileCancel then
      state.record (.reconcileCancel context.number)
    else
      state

/-- The cancel flag, unless the generation has won the forward gate. -/
def State.cancelGeneration (state : State) (preparation : Preparation) : State :=
  match state.active with
  | none => state
  | some active =>
    if active.id = preparation.queryID ∧ state.agentGeneration = preparation.generation ∧
        state.agentForwardGeneration ≠ preparation.generation then
      { state with active := some { active with canceled := true } }
    else
      state

/-- A cancellation before the gate is reconciled. -/
def cancelAgentPrepare : Code Unit := do
  let forwardWon ← atomically fun state =>
    (state.agentForwardGeneration == preparation.generation,
      (state.cancelGeneration preparation).record (.prepareCanceled context.number))
  if forwardWon then return () else reconcileAgentPrepareCancel context preparation

/-! ## Queries that end here -/

/-- A query that is over, with the input it still may have to drain. -/
def endRejected (context : QueryContext) : Option Point :=
  some (.client { ClientLocals.fresh with rejected := some context })

/-- End a query with both hooks. -/
def abortAndComplete (context : QueryContext) : Code Unit := do
  onQueryAbort context
  onQueryComplete

variable (error : HookError)

/-- The client hears of the error before the hooks do. -/
def refuse : Code Unit := do
  writeExceptionToClient (some context.number) error
  abortAndComplete context

/-- The hooks hear of the error before the client does. -/
def refuseAfterHooks : Code Unit := do
  abortAndComplete context
  writeExceptionToClient (some context.number) error

/-- Refuse the query and end the session. -/
def refuseAndLeave : Code (Option Point) := do
  refuse context error
  leaveClient

/-! ## Ordinary forwarding -/

/-- Send the query as the client wrote it. -/
def forwardOrdinary (codec : Nat) (context : QueryContext) : Code (Option Point) := do
  if ← writeQuery config codec context then
    return some (.client { ClientLocals.fresh with current := some ⟨context, false, false⟩ })
  else
    let _ ← takeActiveQuery
    abortAndComplete context
    leaveClient

/-! ## Agent preparation -/

/-- How waiting for a preparation or a stage may fail. -/
inductive AgentError where
  | canceled
  | forwardUnknown
  | eof
  | failed (error : HookError)
  deriving DecidableEq

/-- The error of `errors.Is` that the client is shown. -/
def AgentError.shown (error : AgentError) : HookError :=
  match error with
  | .failed error => error.wrap (config.wording .agentStage)
  | _ => config.refusal .agentStage

/-- The query ends with its preparation. -/
def prepareFailed (error : AgentError) : Code (Option Point) := do
  let _ ← takeActiveQuery
  match error with
  | .canceled =>
    abortAndComplete context
    return nextPacket
  | .eof => leaveClient
  | _ =>
    refuse context (error.shown config)
    return endRejected context

/-- A stage before the forward gate failed. -/
def applyFailed (error : AgentError) : Code (Option Point) := do
  let _ ← takeActiveQuery
  match error with
  | .canceled =>
    reconcileAgentPrepareCancel context preparation
    abortAndComplete context
    return nextPacket
  | _ => refuseAndLeave context (error.shown config)

/-- The authorization failed; only an unknown outcome is persisted. -/
def authorizeFailed (error : AgentError) : Code (Option Point) := do
  match error with
  | .forwardUnknown =>
    tell (.forwardUnknown context.number)
    leaveClient
  | _ => applyFailed config context preparation error

variable (stage : Stage)

/-- Only the last stage leaves work to the journal. -/
def stageFailed (error : AgentError) : Code (Option Point) :=
  match stage with
  | .authorizeForward => authorizeFailed config context preparation error
  | _ => applyFailed config context preparation error

/-- The goroutine of the stage starts. -/
def startWorker : Code Unit := modify fun state =>
    { state with
      worker := .running context.number stage
      history := .stageEntered context.number stage :: state.history }

/--
The goroutine of a stage returns, whether or not the pump still waits for it.
-/
def returnStage : Code Unit := .act fun answer state =>
    match answer, state.worker with
    | .stage error plans, .running query stage =>
      some ((), { state with
          worker := .returned error plans
          history := .stageReturned query stage error :: state.history })
    | _, _ => none

/-- The goroutines of the stages, one after the other. -/
def stageWorker : Code (Option Point) := do
  returnStage
  return some .stageWorker

/-- The head of `runAgentPrepareStage`, up to its loop. -/
def startStage : Code (Option Point) := do
  if ← agentPrepareLive preparation then
    startWorker context stage
    let forwardWon ← observe fun state => state.agentForwardGeneration == preparation.generation
    return some (.agentStage context preparation stage forwardWon)
  else
    stageFailed config context preparation stage .canceled

/-- Win the gate, then authorize. -/
def authorizeAgentForward : Code (Option Point) := do
  if ← winAgentForwardGate context preparation then
    startStage config context preparation .authorizeForward
  else
    authorizeFailed config context preparation .canceled

/-- The plans a prepared query must not carry any more. -/
def refusePrepared : Code (Option Point) := do
  let _ ← takeActiveQuery
  refuseAfterHooks context (config.refusal .conflictingPlans)
  leaveClient

/-- The plan has the query answered without the upstream. -/
def abortWithSuccess (context : QueryContext) : Code (Option Point) := do
  onQueryAbort context
  let whole ← writeClient (some context.number) endOfStreamPacket
  onQueryComplete
  if whole then return endRejected context else leaveClient

/-- What follows the hooks of a prepared query. -/
def forwardPrepared : Code (Option Point) := do
  if context.plans.queryOnlyValid.isSome then
    let _ ← takeActiveQuery
    refuse context (config.refusal .conflictingPlans)
    return nextPacket
  else if context.plans.synthesizedInsert.isSome then
    refusePrepared config context
  else if context.plans.abortWithSuccess then
    abortWithSuccess context
  else if context.plans.deferredInsertLimit.isSome then
    refusePrepared config context
  else
    let codec ← sessionUpstream
    authorizeAgentForward config context { preparation with codec := codec }

/-- A stage returned nil while its query was live. -/
def stagePassed : Code (Option Point) := do
  match stage with
  | .resumeQuery =>
    if ← agentPrepareLive preparation then
      startStage config context preparation .persistForwardIntent
    else
      applyFailed config context preparation .canceled
  | .persistForwardIntent => forwardPrepared config context preparation
  | .authorizeForward => forwardOrdinary config preparation.codec context

/-- Check that the worker is done; its query is live, or it is reconciled. -/
def stageDone (error : Option HookError) : Code (Option Point) := do
  if ← agentPrepareLive preparation then
    match error with
    | some error => stageFailed config context preparation stage (.failed error)
    | none => stagePassed config context preparation stage
  else
    reconcileAgentPrepareCancel context preparation
    stageFailed config context preparation stage .canceled

/-- The resumed hooks may change the plans of their query. -/
def resumedContext (plans : Plans) : QueryContext :=
  if stage = .resumeQuery then { context with plans := plans } else context

/-- Take the result of the worker if it has returned. -/
def pollStage : Code (Option (Option HookError × Plans)) := atomically fun state =>
    match state.worker with
    | .returned error plans => (some (error, plans), { state with worker := .idle })
    | _ => (none, state)

/-- Join the worker of a stage whose query was canceled. -/
def joinStage : Code (Option HookError) := .act fun answer state =>
    match answer, state.worker with
    | .tick, .returned error _ => some (error, { state with worker := .idle })
    | _, _ => none

/-- The client gave the query up while a stage ran; the stage is stopped and joined. -/
def cancelStage (forwardWon : Bool) (otherwise : AgentError) : Code (Option Point) := do
  cancelAgentPrepare context preparation
  tell (.stageStopped context.number)
  match ← joinStage with
  | some error =>
    stageFailed config context preparation stage (if forwardWon then .failed error else otherwise)
  | none =>
    stageFailed config context preparation stage (if forwardWon then .forwardUnknown else otherwise)

/-- Wait for the stage, and watch the client. -/
def agentStage (forwardWon : Bool) : Code (Option Point) := do
  match ← pollStage with
  | some (error, plans) =>
    stageDone config (resumedContext context stage plans) preparation stage error
  | none =>
    match ← waitForPacketStart with
    | .notReady => return some (.agentStage context preparation stage forwardWon)
    | .eof => cancelStage config context preparation stage forwardWon .eof
    | .failed => stageFailed config context preparation stage (.failed (config.refusal .agentStage))
    | .ready =>
      match ← readClient true with
      | .eof | .closedPipe =>
        cancelAgentPrepare context preparation
        stageFailed config context preparation stage .eof
      | .tooLarge | .failed =>
        stageFailed config context preparation stage (.failed (config.refusal .agentStage))
      | .packet (.cancel _) => cancelStage config context preparation stage forwardWon .canceled
      | .packet _ =>
        stageFailed config context preparation stage (.failed (config.refusal .unexpectedPacket))

/-! ## Waiting for the preparation -/

/-- The result of the preparation, and whether its error wraps `io.EOF`. -/
def pollPrepared : Code (Option (Except HookError (Option Query) × Bool)) :=
  .ask fun
    | .tick, _ => some none
    | .prepared result endsInput, _ => some (some (result, endsInput))
    | _, _ => none

/-- Go on with the prepared query. -/
def preparationDone (result : Except HookError (Option Query)) (endsInput : Bool) :
    Code (Option Point) := do
  if ← agentPrepareLive preparation then
    match result with
    | .error error =>
      prepareFailed config context (if endsInput then .eof else .failed error)
    | .ok none => prepareFailed config context (.failed (config.refusal .agentPrepare))
    | .ok (some query) =>
      -- `applyAgentPrepare` puts the prepared Query in place first.
      let prepared := { context with query := query }
      if ← agentPrepareLive preparation then
        startStage config prepared preparation .resumeQuery
      else
        applyFailed config context preparation .canceled
  else
    reconcileAgentPrepareCancel context preparation
    prepareFailed config context .canceled

/-- Wait for the preparation, and watch the client. -/
def awaitPrepare : Code (Option Point) := do
  match ← pollPrepared with
  | some (result, endsInput) => preparationDone config context preparation result endsInput
  | none =>
    match ← waitForPacketStart with
    | .notReady => return some (.awaitPrepare context preparation)
    | .eof =>
      cancelAgentPrepare context preparation
      prepareFailed config context .eof
    | .failed => prepareFailed config context (.failed (config.refusal .agentPrepare))
    | .ready =>
      match ← readClient true with
      | .eof =>
        cancelAgentPrepare context preparation
        prepareFailed config context .eof
      | .closedPipe =>
        cancelAgentPrepare context preparation
        prepareFailed config context (.failed (config.refusal .agentPrepare))
      | .tooLarge | .failed => prepareFailed config context (.failed (config.refusal .agentPrepare))
      | .packet (.cancel _) =>
        cancelAgentPrepare context preparation
        prepareFailed config context .canceled
      | .packet _ => prepareFailed config context (.failed (config.refusal .unexpectedPacket))

/-- Start a preparation that no other plan disturbs. -/
def runAgentPrepare (plan : AgentPreparePlan) : Code (Option Point) := do
  if !config.supportsContinuation then
    refuseAndLeave context (markUnspentIfSigned context.query (config.refusal .noContinuation))
  else if context.plans.queryOnlyValid.isSome || context.plans.deferredInsertLimit.isSome ||
      context.plans.synthesizedInsert.isSome ||
      context.plans.suppressUpstreamExecution ||
      context.plans.abortWithSuccess then
    refuse context (markUnspentIfSigned context.query (config.refusal .conflictingPlans))
    return endRejected context
  else if ← beginActiveQuery context context.packetID then
    let generation ← nextAgentPrepareGeneration
    if plan.hasPrepare then
      tell (.prepareEntered context.number)
      return some (.awaitPrepare context
        { plan := plan
          queryID := context.query.id
          generation := generation
          codec := 0 })
    else
      prepareFailed config context (.failed (config.refusal .agentPrepare))
  else
    refuseAndLeave context (markUnspentIfSigned context.query (config.refusal .racedActiveQuery))

/-! ## Query-only execution -/

/-- Let the client deliver one empty marker before its next query. -/
def allowMarker (allowed : Bool) : Code Unit :=
  modify fun state => { state with lateMarkerAllowed := state.lateMarkerAllowed || allowed }

/-- `failAtBoundary`, and the hooks that follow it. -/
def queryOnlyFailed (allowLateMarker : Bool) (error : HookError) : Code (Option Point) := do
  let _ ← takeActiveQuery
  allowMarker allowLateMarker
  refuse context (error.wrap (config.wording .queryOnly))
  return nextPacket

/-- The client's codec is no longer on a packet boundary. -/
def queryOnlyDesynchronized : Code (Option Point) := do
  let _ ← takeActiveQuery
  refuseAndLeave context (config.refusal .queryOnly)

/-- The client is gone, and no hook tells the plugins. -/
def queryOnlyDisconnected : Code (Option Point) := do
  let _ ← takeActiveQuery
  leaveClient

/-- Report success to the client. -/
def answerEndOfStream (context : QueryContext) : Code (Option Point) := do
  if ← writeClient (some context.number) endOfStreamPacket then return nextPacket else leaveClient

/-- Wait for the run to return. -/
def joinRun : Code Unit := .ask fun
    | .hook _, _ => some ()
    | _, _ => none

variable (markerSeen : Bool)

/-- The client canceled the run. -/
def queryOnlyCanceled : Code (Option Point) := do
  joinRun
  let _ ← takeActiveQuery
  abortAndComplete context
  allowMarker !markerSeen
  answerEndOfStream context

/-- The run returned without an error. -/
def queryOnlySucceeded : Code (Option Point) := do
  match ← takeActiveQueryState with
  | none =>
    refuse context (config.refusal .queryOnly)
    return nextPacket
  | some taken =>
    if taken.canceled then
      refuse context (config.refusal .queryOnly)
      return nextPacket
    else
      onQueryComplete
      allowMarker !markerSeen
      answerEndOfStream context

/-- Look whether the run has returned. -/
def pollRun : Code (Option (Option HookError)) := .ask fun
    | .tick, _ => some none
    | .hook error, _ => some (some error)
    | _, _ => none

/-- A Data packet during the run: one empty marker is drained. -/
def queryOnlyData (data : DataPacket) : Code (Option Point) := do
  if data.info = some ⟨[], true⟩ ∧ !markerSeen then
    return some (.queryOnly context true false)
  else
    cancelActiveQuery
    queryOnlyFailed config context (!markerSeen) (config.refusal .unexpectedPacket)

/-- Wait for the run, and watch the client. -/
def queryOnly (markerSeen canceled : Bool) : Code (Option Point) := do
  if canceled then
    queryOnlyCanceled context markerSeen
  else
    match ← pollRun with
    | some (some error) => queryOnlyFailed config context (!markerSeen) error
    | some none => queryOnlySucceeded config context markerSeen
    | none =>
      match ← waitForPacketStart with
      | .notReady => return some (.queryOnly context markerSeen canceled)
      | .eof =>
        cancelActiveQuery
        queryOnlyDisconnected
      | .failed =>
        cancelActiveQuery
        queryOnlyDesynchronized config context
      | .ready =>
        match ← readClient true with
        | .eof | .closedPipe =>
          cancelActiveQuery
          queryOnlyDisconnected
        | .tooLarge | .failed | .packet (.undecodedQuery _) =>
          cancelActiveQuery
          queryOnlyDesynchronized config context
        | .packet (.cancel _) =>
          cancelActiveQuery
          return some (.queryOnly context markerSeen true)
        | .packet (.data data) => queryOnlyData config context markerSeen data
        | .packet _ =>
          cancelActiveQuery
          queryOnlyFailed config context false (config.refusal .unexpectedPacket)

/-- A query that the agent runs. -/
def runQueryOnly (valid : Bool) : Code (Option Point) := do
  if !valid then
    refuse context (config.refusal .queryOnly)
    return nextPacket
  else if ← beginActiveQuery context context.query.id then
    return some (.queryOnly context false false)
  else
    refuse context (config.refusal .racedActiveQuery)
    return nextPacket

end HouseGate.Relay
