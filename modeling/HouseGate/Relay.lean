import HouseGate.ProgramPool
import HouseGate.SiStatement

namespace HouseGate.Relay

open DecimalText AsciiText Utf8Text EffectProgram SiStatement

/-!
# The relay's state and its atomic operations

A relay copies packets between a client and the upstream its session is bound
to.  Two pumps, one for each direction, run side by side; they call the hooks
of the plugin chain and share the state modelled here.  Every operation of
this module is one atomic action: a critical section of a mutex, an atomic
variable, a channel, a hook call, or one packet read or written.

What the outside answers is an input of the action: packets, write failures,
hook results.  The wording of the relay's own errors is left open.
-/

/-! ## Errors -/

/-- An error as the client is told it. -/
structure ClientError where
  code : Int
  message : Bytes
  keepSession : Bool
  seqUnspent : Bool
  deriving DecidableEq

/--
An error as `errors.As` sees it: its text, the first ClientError it wraps and
whether `MarkSeqUnspent` wrapped it anywhere.
-/
structure HookError where
  message : Bytes
  clientError : Option ClientError
  marked : Bool
  deriving DecidableEq

variable (error : HookError)

/-- The client may go on after this error. -/
def keepsSession : Bool := error.clientError.any (·.keepSession)

/-- The statement of the query may be sent again. -/
def isSeqUnspent : Bool := error.marked || error.clientError.any (·.seqUnspent)

/-- The mark is set once. -/
def markSeqUnspent : HookError :=
  { error with marked := error.marked || !isSeqUnspent error }

variable (message : Bytes)

/-- An error of the relay's own making. -/
def relayError : HookError :=
  { message := message, clientError := none, marked := false }

/-- `fmt.Errorf` with `%w`: more text in front of the same error. -/
def HookError.wrap : HookError :=
  { error with message := message ++ error.message }

/-- An exception packet of the upstream. -/
structure Exception where
  code : Int
  name : Bytes
  message : Bytes
  deriving DecidableEq

/-- `TrimSeqUnspentSuffix` removes one trailing marker. -/
def trimSeqUnspentSuffix : Bytes :=
  trimSuffix (trimUnicodeSpace message) seqUnspentSuffix

/-- Every round removes a marker, so the text's length bounds the rounds. -/
def stripSeqUnspent : Nat → Bytes → Bytes
  | 0, message => message
  | rounds + 1, message =>
    if hasSeqUnspentSuffix message then
      stripSeqUnspent rounds (trimSeqUnspentSuffix message)
    else
      message

/-- What the client is told of an error of the hooks. -/
def exceptionForPluginError : Exception :=
  let code := (error.clientError.map (·.code)).getD 403
  let message := (error.clientError.map (·.message)).getD error.message
  let rendered :=
    if isSeqUnspent error then
      if hasSeqUnspentSuffix message then message
      else message ++ seqUnspentSuffix
    else
      stripSeqUnspent message.length message
  { code := code, name := ascii "DB::Exception", message := rendered }

/-! ## Packets and queries -/

/-- A Query packet; `signed` tells whether it carries a statement token. -/
structure Query where
  id : Bytes
  body : Bytes
  compressed : Bool
  signed : Bool
  deriving DecidableEq

/-- Only a signed query has a statement to send again. -/
def markUnspentIfSigned (query : Query) (error : HookError) : HookError :=
  if query.signed then markSeqUnspent error else error

/-- The part of a data block that the relay reads. -/
structure BlockInfo where
  name : Bytes
  empty : Bool
  deriving DecidableEq

/-- A framed client Data packet and what `InspectClientDataPacket` reads. -/
structure DataPacket where
  raw : Bytes
  info : Option BlockInfo
  deriving DecidableEq

/-- A packet of the client, as far as it was decoded. -/
inductive ClientPacket where
  | query (query : Query)
  | undecodedQuery (raw : Bytes)
  | data (data : DataPacket)
  | cancel (raw : Bytes)
  | other (code : Nat) (raw : Bytes)
  deriving DecidableEq

/-- How a read of the client's codec ends. -/
inductive ClientRead where
  | packet (packet : ClientPacket)
  | tooLarge
  | eof
  | closedPipe
  | failed
  deriving DecidableEq

/-- How `WaitForPacketStart` ends. -/
inductive PacketWait where
  | ready
  | notReady
  | eof
  | failed

/-- A packet of the upstream, with its bytes. -/
inductive ServerPacket where
  | data (raw : Bytes)
  | tableColumns (raw : Bytes)
  | endOfStream (raw : Bytes)
  | exception (exception : Exception)
  | other (code : Nat) (raw : Bytes)
  deriving DecidableEq

/-- How a read of the upstream's codec ends; a result of an unsupported type
comes with the prefix read so far. -/
inductive UpstreamRead where
  | packet (packet : ServerPacket)
  | unsupported (prefixRead : Bytes)
  | eof
  | failed

/-- What is written upstream; `empty` is a Data packet without rows. -/
inductive UpstreamPacket where
  | query (query : Query)
  | data (raw : Bytes) (empty : Bool)
  | emptyBlock
  | cancel (raw : Bytes)
  | other (raw : Bytes)
  deriving DecidableEq

/-- A column of the upstream's sample block. -/
structure SampleColumn where
  name : Bytes
  type : Bytes
  deriving DecidableEq

/-- The hooks that the agent's plan has. -/
structure AgentPreparePlan where
  hasPrepare : Bool
  hasReconcileCancel : Bool
  deriving DecidableEq

/--
`agentPrepareResult`: what identifies one preparation.  The upstream is fixed
before the forward gate.
-/
structure Preparation where
  plan : AgentPreparePlan
  queryID : Bytes
  generation : Nat
  codec : Nat

/-- An INSERT whose rows the agent evaluated. -/
structure SynthesizedInsert where
  blocks : Nat
  sampleColumns : List SampleColumn
  deriving DecidableEq

/-- The ownership plans that `OnQuery` may install. -/
structure Plans where
  agentPrepare : Option AgentPreparePlan
  queryOnlyValid : Option Bool
  deferredInsertLimit : Option Nat
  synthesizedInsert : Option SynthesizedInsert
  suppressUpstreamExecution : Bool
  abortWithSuccess : Bool
  deriving DecidableEq

/-- The hooks planned nothing. -/
def Plans.none : Plans :=
  { agentPrepare := .none
    queryOnlyValid := .none
    deferredInsertLimit := .none
    synthesizedInsert := .none
    suppressUpstreamExecution := false
    abortWithSuccess := false }

/--
`number` counts the Query packets of the session.  `packetID` is the id of the
packet itself; a hook may put another Query in its place.
-/
structure QueryContext where
  number : Nat
  packetID : Bytes
  query : Query
  plans : Plans
  deriving DecidableEq

/-! ## Shared state -/

/-- The query in the active slot. -/
structure ActiveQuery where
  number : Nat
  id : Bytes
  canceled : Bool

/-- What `takeActiveQueryState` hands to the pump that ends the query. -/
structure TakenQuery where
  number : Nat
  id : Bytes
  canceled : Bool
  rejection : Option Exception

/-- A sample block, without bytes where a Cancel took its place. -/
inductive SampleResult where
  | block (raw : Option Bytes)
  | exception (exception : Exception)
  | failed

/-- Who ends a deferred query. -/
inductive LifecycleOwner where
  | unclaimed
  | upstream
  | writer
  deriving DecidableEq

/-- The one Cancel of a signed INSERT; `whole` tells how its write ended. -/
inductive CancelWrite where
  | unsent
  | started
  | ended (whole : Bool)
  deriving DecidableEq

/--
`deferredInputGate`.  A channel is the flag that it was closed, and a
`sync.Once` the flag that it ran.
-/
structure InputGate where
  context : QueryContext
  terminalDecoded : Bool
  cancel : CancelWrite
  done : Bool
  terminal : Bool
  exposed : Bool
  exposureDone : Bool
  delivered : Bool
  marker : Bool
  terminator : Bool
  lifecycleOwner : LifecycleOwner
  terminalClaim : Bool
  aborted : Bool
  completed : Bool

variable (context : QueryContext)

/-- A gate nobody has passed. -/
def newDeferredInputGate : InputGate :=
  { context := context
    terminalDecoded := false
    cancel := .unsent
    done := false
    terminal := false
    exposed := false
    exposureDone := false
    delivered := false
    marker := false
    terminator := false
    lifecycleOwner := .unclaimed
    terminalClaim := false
    aborted := false
    completed := false }

/-- A read failover under way and the failure that started it. -/
structure ReadFailover where
  owner : Nat
  remaining : List Bytes
  original : UpstreamRead

/-- The query that another upstream may be sent. -/
structure FailoverQuery where
  number : Nat
  query : Query
  terminator : Option DataPacket
  read : Bool
  use : Bytes
  answered : Bool
  moving : Option ReadFailover

/-- The stages of an agent-prepared query. -/
inductive Stage where
  | resumeQuery
  | persistForwardIntent
  | authorizeForward
  deriving DecidableEq

/--
The goroutine of a stage with its channel: nobody takes the result of a worker
that the pump no longer waits for.
-/
inductive Worker where
  | idle
  | running (query : Nat) (stage : Stage)
  | returned (error : Option HookError) (plans : Plans)
  deriving DecidableEq

/--
What a run leaves behind.  A query is named by its number, an upstream by the
number of its codec.
-/
inductive Event where
  | onQuery (query : Nat)
  | planned (context : QueryContext)
  | onQueryAbort (query : Nat) (unsent : Bool)
  | onQuerySuccess (query : Nat)
  | onQueryComplete
  | onClientDataStrict (query : Nat) (raw : Bytes)
  | strictEntered (context : QueryContext) (payload : List Bytes)
  | strictReturned (query : Nat) (error : Option HookError)
  | onQueryInputComplete (query : Nat)
  | onClose
  | began (query : Nat)
  | took (query : Nat)
  | armed (gate query : Nat)
  | canceled (query : Nat)
  | rejectionArmed (query : Nat) (exception : Exception)
  | toUpstream (codec : Nat) (query : Option Nat) (packet : UpstreamPacket) (whole : Bool)
  | resent (codec query : Nat) (packet : UpstreamPacket) (whole : Bool)
  | toClient (query : Option Nat) (packet : ServerPacket)
  | relayed (codec : Nat) (query : Option Nat) (packet : ServerPacket) (whole : Bool)
  | rawRelayed (codec : Nat) (query : Option Nat) (bytes : Bytes)
  | decoded (codec : Nat) (query : Option Nat) (packet : ServerPacket)
  | encoded (query : Nat) (payload : List Bytes)
  | sampleConsumed (query : Nat) (raw : Bytes)
  | stageEntered (query : Nat) (stage : Stage)
  | stageReturned (query : Nat) (stage : Stage) (error : Option HookError)
  | stageStopped (query : Nat)
  | prepareEntered (query : Nat)
  | prepareCanceled (query : Nat)
  | forwardGateWon (query : Nat)
  | reconcileCancel (query : Nat)
  | forwardUnknown (query : Nat)
  | rebound (codec : Nat)
  deriving DecidableEq

/--
The fields of `Relay` and of its session; the history is newest first.  The
queries are numbered from 1, so that 0 names none.
-/
structure State where
  active : Option ActiveQuery
  terminalHooks : Option Bytes
  lateMarkerAllowed : Bool
  agentGeneration : Nat
  agentForwardGeneration : Nat
  worker : Worker
  pendingRejection : Option (Bytes × Exception)
  signedQueryWrite : Option (Nat × Bytes)
  opaqueMode : Bool
  opaqueDone : Option Bool
  sampleGates : Nat
  sampleGate : Option (Nat × Nat)
  sampleResult : Nat → Option SampleResult
  gates : Nat
  inputGate : Option Nat
  gate : Nat → InputGate
  failoverLocked : Bool
  failoverQuery : Option FailoverQuery
  failoverEligible : Bool
  logicalDatabase : Bytes
  codecs : Nat
  upstream : Nat
  closing : Bool
  contextDone : Bool
  clientExited : Bool
  upstreamExited : Bool
  queries : Nat
  history : List Event

/-- The context of the unused gates. -/
def noContext : QueryContext :=
  { number := 0
    packetID := []
    query := { id := [], body := [], compressed := false, signed := false }
    plans := .none }

/-- A relay after its handshake, bound to the upstream with number 0. -/
def State.initial (failoverEligible : Bool) (logicalDatabase : Bytes) : State :=
  { active := none
    terminalHooks := none
    lateMarkerAllowed := false
    agentGeneration := 0
    agentForwardGeneration := 0
    worker := .idle
    pendingRejection := none
    signedQueryWrite := none
    opaqueMode := false
    opaqueDone := none
    sampleGates := 0
    sampleGate := none
    sampleResult := fun _ => none
    gates := 0
    inputGate := none
    gate := fun _ => newDeferredInputGate noContext
    failoverLocked := false
    failoverQuery := none
    failoverEligible := failoverEligible
    logicalDatabase := logicalDatabase
    codecs := 1
    upstream := 0
    closing := false
    contextDone := false
    clientExited := false
    upstreamExited := false
    queries := 1
    history := [] }

/-! ## Actions -/

/-- What the outside may answer to an action. -/
inductive Answer where
  | tick
  | flag (value : Bool)
  | clientRead (read : ClientRead)
  | clientWait (wait : PacketWait)
  | upstreamRead (read : UpstreamRead)
  | rawRead (bytes : Bytes) (ended : Bool)
  | wrote (whole : Bool)
  | queryID (id : Bytes)
  | queryHook (result : Except HookError (Bytes × Query × Plans)) (rebinds : Bool)
  | limit (limit : Option Nat)
  | hook (error : Option HookError)
  | prepared (result : Except HookError (Option Query)) (endsInput : Bool)
  | stage (error : Option HookError) (plans : Plans)
  | encoded (packets : Option (List Bytes))
  | rewritten (exception : Exception)
  | candidates (addresses : Option (List Bytes))
  | contextDone

abbrev Code := Program State Answer

/-- A step that needs no answer. -/
def atomically {α : Type} (change : State → α × State) : Code α := .act fun answer state =>
    match answer with
    | .tick => some (change state)
    | _ => none

variable (state : State)

/-- A further event. -/
def State.record (event : Event) : State :=
  { state with history := event :: state.history }

/-- Record an event. -/
def tell (event : Event) : Code Unit := atomically fun state => ((), state.record event)

/-- Read the state. -/
def observe {α : Type} (read : State → α) : Code α := .ask fun
    | .tick, state => some (read state)
    | _, _ => none

/-- Change the state. -/
def modify (change : State → State) : Code Unit := atomically fun state => ((), change state)

/-- A conditional step. -/
def onlyIf (condition : Bool) (code : Code Unit) : Code Unit :=
  if condition then code else pure ()

/-- Wait for a condition; the answer is false when the context ended. -/
def awaitOrDone (ready : State → Bool) : Code Bool := .ask fun
    | .tick, state => if ready state then some true else none
    | .contextDone, state => if state.contextDone then some false else none
    | _, _ => none

/-- Wait for a condition however long it takes. -/
def await (ready : State → Bool) : Code Unit := .ask fun
    | .tick, state => if ready state then some () else none
    | _, _ => none

/-- A choice of the environment. -/
def askFlag : Code Bool := .ask fun
    | .flag value, _ => some value
    | _, _ => none

/-- A write; the environment tells whether all of it went out. -/
def attempt (step : Bool → State → State) : Code Bool := .act fun
    | .wrote whole, state => some (whole, step whole state)
    | _, _ => none

/-! ### Hooks -/

/-- The query ends without an answer of the upstream. -/
def onQueryAbort : Code Unit := tell (.onQueryAbort context.number false)

/-- The last hook of a query. -/
def onQueryComplete : Code Unit := tell .onQueryComplete

/-- The session gets a new upstream. -/
def State.rebind : State := { state with
    upstream := state.codecs
    codecs := state.codecs + 1
    history := .rebound state.codecs :: state.history }

/-- The hooks installed these plans. -/
def State.plan (result : Except HookError QueryContext) : State :=
  match result with
  | .ok context => state.record (.planned context)
  | .error _ => state

/-- `OnQuery` may rewrite the query, install plans and rebind the session. -/
def onQuery : Code (Except HookError QueryContext) := do
  tell (.onQuery context.number)
  .act fun answer state =>
    match answer with
    | .queryHook result rebinds =>
      let admitted := result.map fun changed =>
          { context with
            packetID := changed.1
            query := changed.2.1
            plans := changed.2.2 }
      some (admitted, (if rebinds then state.rebind else state).plan admitted)
    | _ => none

/-- The hook that may refuse a Data packet. -/
def onClientDataStrict (raw : Bytes) : Code (Option HookError) :=
  .act fun answer state =>
    match answer with
    | .hook error => some (error, state.record (.onClientDataStrict context.number raw))
    | _ => none

/-- `payload` is the data of the query that a signed lane holds ready. -/
def onQueryInputCompleteStrict (payload : List Bytes) : Code (Option HookError) := do
  tell (.strictEntered context payload)
  .act fun answer state =>
    match answer with
    | .hook error => some (error, state.record (.strictReturned context.number error))
    | _ => none

/-- The client has sent all of its data. -/
def onQueryInputComplete : Code Unit :=
  tell (.onQueryInputComplete context.number)

/-- The exception as the `OnException` hooks leave it. -/
def onException : Code Exception := .ask fun
    | .rewritten exception, _ => some exception
    | _, _ => none

/-- The bytes of Data the chain still takes, if it sets a limit. -/
def clientDataReadLimit : Code (Option Nat) := .ask fun
    | .limit limit, _ => some limit
    | _, _ => none

/-! ### The two connections -/

/-- The upstream the session is bound to. -/
def sessionUpstream : Code Nat := observe (·.upstream)

/-- A packet of the client; only a limited read finds one too large. -/
def readClient (limited : Bool) : Code ClientRead := .ask fun
    | .clientRead read, _ => if read = .tooLarge ∧ !limited then none else some read
    | _, _ => none

/-- Wait for a first byte, for a while. -/
def waitForPacketStart : Code PacketWait := .ask fun
    | .clientWait wait, _ => some wait
    | _, _ => none

/-- A packet of the active query, if there is one. -/
def State.activeNumber : Option Nat := state.active.map (·.number)

variable (codec : Nat)

/-- A packet of the upstream. -/
def readUpstream : Code UpstreamRead := .act fun answer state =>
    match answer with
    | .upstreamRead (.packet packet) =>
      some (.packet packet, state.record (.decoded codec state.activeNumber packet))
    | .upstreamRead read => some (read, state)
    | _ => none

variable (query : Option Nat)

/-- A write that fails may have handed some of its bytes over. -/
def writeUpstream (packet : UpstreamPacket) : Code Bool :=
  attempt fun whole state => state.record (.toUpstream codec query packet whole)

variable (packet : ServerPacket)

/-- A packet of the relay's own making. -/
def writeClient : Code Bool := attempt fun _ state => state.record (.toClient query packet)

/-- A packet in the middle of an answer. -/
def relayPacket : Code Bool :=
  attempt fun whole state => state.record (.relayed codec state.activeNumber packet whole)

/-- The packet that ends an answer, as the hooks leave it. -/
def relayTerminal : Code Bool :=
  attempt fun whole state => state.record (.relayed codec query packet whole)

/-- A failure to write the Exception is only logged. -/
def writeExceptionToClient (error : HookError) : Code Unit :=
  tell (.toClient query (.exception (exceptionForPluginError error)))

/-- The answer that reports success. -/
def endOfStreamPacket : ServerPacket := .endOfStream [5]

/-! ### The active query -/

/-- One query at a time, terminal hooks included. -/
def beginActiveQuery (id : Bytes) : Code Bool := atomically fun state =>
    if state.active.isSome || state.terminalHooks.isSome then
      (false, state)
    else
      (true, { state with
          active := some ⟨context.number, id, false⟩
          history := .began context.number :: state.history })

/-- The rejection armed for the query, if it is this query's. -/
def State.rejectionFor (id : Bytes) : Option Exception :=
  match state.pendingRejection with
  | some (rejected, exception) =>
    if rejected = id then some exception else none
  | none => none

/-- Take the active query out of its slot. -/
def State.takeActive : Option TakenQuery × State :=
  match state.active with
  | none => (none, state)
  | some active =>
    let rejection := state.rejectionFor active.id
    (some ⟨active.number, active.id, active.canceled, rejection⟩, { state with
        active := none
        pendingRejection :=
          if rejection.isSome then none else state.pendingRejection
        history := .took active.number :: state.history })

/-- Take the active query with what is known of it. -/
def takeActiveQueryState : Code (Option TakenQuery) := atomically State.takeActive

/-- Whether there was an active query to take. -/
def takeActiveQuery : Code Bool := atomically fun state =>
    let taken := state.takeActive
    (taken.1.isSome, taken.2)

/-- Take the active query and hold its slot for the hooks. -/
def takeActiveQueryTerminal : Code (Option TakenQuery) := atomically fun state =>
    let taken := state.takeActive
    (taken.1, { taken.2 with
        terminalHooks :=
          match taken.1 with
          | some query => some query.id
          | none => taken.2.terminalHooks })

/-- The slot is free again. -/
def endTerminalHooks : Code Unit := modify fun state => { state with terminalHooks := none }

/-- The query that is active or whose terminal hooks still run. -/
def currentActiveQuery : Code (Option Bytes) := observe fun state =>
    match state.active with
    | some active => some active.id
    | none => state.terminalHooks

/-- Mark the active query as canceled. -/
def State.cancelActive : State :=
  match state.active with
  | none => state
  | some active =>
    { state with
      active := some { active with canceled := true }
      history := .canceled active.number :: state.history }

/-- The client sent Cancel. -/
def cancelActiveQuery : Code Unit := modify State.cancelActive

/-- Keep an exception for the end of the active query. -/
def rejectActiveQueryTerminal (id : Bytes) (exception : Exception) : Code Bool :=
  atomically fun state =>
    match state.active with
    | none => (false, state)
    | some active =>
      if active.id = id then
        (true, { state with
            pendingRejection := some (id, exception)
            history := .rejectionArmed active.number exception :: state.history })
      else
        (false, state)

/-! ### Gates of the signed lanes -/

/-- The next block of the upstream is a sample. -/
def armDeferredSample : Code Nat := atomically fun state =>
    (state.sampleGates, { state with
        sampleGates := state.sampleGates + 1
        sampleGate := some (state.sampleGates, context.number) })

/-- Answer the lane that waits for the sample. -/
def State.settleSample (result : SampleResult) : State :=
  match state.sampleGate with
  | none => state
  | some (gate, _) =>
    { state with
      sampleGate := none
      sampleResult := Function.update state.sampleResult gate result }

/-- Settle the sample, if one is awaited. -/
def settleDeferredSample (result : SampleResult) : Code Unit :=
  modify fun state => state.settleSample result

/-- The upstream's sample block goes to the lane that waits for it. -/
def consumeSample (raw : Bytes) : Code Unit := modify fun state =>
    match state.sampleGate with
    | none => state
    | some (_, query) => (state.settleSample (.block raw)).record (.sampleConsumed query raw)

/-- No sample is awaited any more. -/
def disarmDeferredSample : Code Unit := modify fun state => { state with sampleGate := none }

/-- A gate for the input of this query. -/
def armDeferredInput : Code Nat := atomically fun state =>
    (state.gates, { state with
        gates := state.gates + 1
        inputGate := some state.gates
        gate := Function.update state.gate state.gates (newDeferredInputGate context)
        history := .armed state.gates context.number :: state.history })

/-- Change one gate. -/
def State.withGate (gate : Nat) (change : InputGate → InputGate) : State :=
  { state with
    gate := Function.update state.gate gate (change (state.gate gate)) }

variable (gate : Nat)

/-- Change a gate of the state. -/
def modifyGate (change : InputGate → InputGate) : Code Unit :=
  modify fun state => state.withGate gate change

/-- Look at a gate. -/
def observeGate (read : InputGate → Bool) : Code Bool :=
  observe fun state => read (state.gate gate)

/-- `finishDeferredInput` keeps the gate installed. -/
def finishWriter : Code Unit :=
  modifyGate gate fun input => { input with done := true }

/-- Tell the writer to stop. -/
def stopWriter : Code Unit :=
  modifyGate gate fun input => { input with terminal := true }

/-- The first to claim the end of the query owns it. -/
def claimLifecycle (owner : LifecycleOwner) (gate : Nat) : Code Bool := atomically fun state =>
    match (state.gate gate).lifecycleOwner with
    | .unclaimed =>
      (true, state.withGate gate fun input => { input with lifecycleOwner := owner })
    | other => (other == owner, state)

/-- The upstream pump ends the query. -/
def claimUpstreamLifecycle : Nat → Code Bool := claimLifecycle .upstream

/-- The writer ends the query. -/
def claimWriterLifecycle : Nat → Code Bool := claimLifecycle .writer

/-- The upstream pump holds a terminal packet. -/
def publishUpstreamTerminal : Code Unit :=
  modifyGate gate fun input => { input with terminalClaim := true }

/-- The terminal packet was written, or could not be. -/
def finishTerminalExposure (exposed : Bool) : Code Unit := modifyGate gate fun input =>
    { input with
      exposed := input.exposed || exposed
      exposureDone := true }

/-- The query is over for both pumps. -/
def markDelivered : Code Unit :=
  modifyGate gate fun input => { input with delivered := true }

/-- The marker went out. -/
def markMarkerWritten : Code Unit :=
  modifyGate gate fun input => { input with marker := true }

/-- The terminator went out. -/
def markTerminatorWritten : Code Unit :=
  modifyGate gate fun input => { input with terminator := true }

/-- The abort hook, once for a gate. -/
def abortGate : Code Unit := modify fun state =>
    if (state.gate gate).aborted then
      state
    else
      (state.withGate gate fun input => { input with aborted := true }).record
        (.onQueryAbort (state.gate gate).context.number false)

/-- The completion hook, once for a gate. -/
def completeGate : Code Unit := modify fun state =>
    if (state.gate gate).completed then
      state
    else
      (state.withGate gate fun input => { input with completed := true }).record .onQueryComplete

/-- The gate is no longer the current one. -/
def clearDeferredInput : Code Unit := modify fun state =>
    if state.inputGate = some gate then { state with inputGate := none } else state

/-- The gate of the query in its input. -/
def currentDeferredInput : Code (Option Nat) := observe (·.inputGate)

/-- A lane waits for its sample. -/
def deferredSampleArmed : Code Bool := observe fun state => state.sampleGate.isSome

/-- One Cancel is sent, before the terminal packet. -/
def beginCancel : Code Bool := atomically fun state =>
    let input := state.gate gate
    if input.terminalDecoded || input.cancel != .unsent then
      (false, state)
    else
      (true, state.cancelActive.withGate gate fun input => { input with cancel := .started })

/-- How the write of the Cancel ended. -/
def finishCancel (whole : Bool) : Code Unit :=
  modifyGate gate fun input => { input with cancel := .ended whole }

/-- The terminal is decoded; the answer tells whether a Cancel was begun. -/
def markTerminalDecoded : Code Bool := atomically fun state =>
    ((state.gate gate).cancel != .unsent,
      state.withGate gate fun input => { input with terminalDecoded := true })

/-- Whether a Cancel was sent, or none if the wait or its write failed. -/
def terminalCancel : Code (Option Bool) := do
  if ← markTerminalDecoded gate then
    let ended ← awaitOrDone fun state =>
      match (state.gate gate).cancel with
      | .ended _ => true
      | _ => false
    if ended then
      let whole ← observeGate gate fun input => input.cancel == .ended true
      return if whole then some true else none
    else
      return none
  else
    return some false

/-! ### Lanes that did not reach the upstream -/

/-- `abortUnsentQuery` vouches only while no write of the query began. -/
def abortUnsentQuery : Code Unit := do
  modify fun state =>
    let begun := state.signedQueryWrite.any fun write => write.2 == context.query.id
    state.record (.onQueryAbort context.number !begun)
  onQueryComplete

/-- From here on the statement may be spent. -/
def markSignedQueryWriteBegun : Code Unit := modify fun state =>
    { state with
      signedQueryWrite := some (context.number, context.query.id) }

/-- The write of this query is over. -/
def clearSignedQueryWrite : Code Unit := modify fun state =>
    match state.signedQueryWrite with
    | some (number, _) =>
      if number = context.number then { state with signedQueryWrite := none } else state
    | none => state

end HouseGate.Relay
