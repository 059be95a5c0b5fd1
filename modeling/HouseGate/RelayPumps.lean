import HouseGate.RelayAgent

namespace HouseGate.Relay

open DecimalText

/-!
# The two pumps

`clientToUpstream` takes the client's packets one by one, `upstreamToClient`
those of the upstream.  Beside them stand `runPostHandshake`, which waits for
both and calls `OnClose`, the probe of an opaque result, and the end of the
server's context.
-/

/-! ## Client packets -/

/-- A Query without an id gets one. -/
def assignQueryID (query : Query) : Code Bytes :=
  if query.id = [] then
    .ask fun
      | .queryID id, _ => if id = [] then none else some id
      | _, _ => none
  else
    pure query.id

/-- A Query packet is numbered when its context is built. -/
def newQueryContext (query : Query) : Code QueryContext := do
  let id ← assignQueryID query
  atomically fun state =>
    ({ number := state.queries
       packetID := id
       query := { query with id := id }
       plans := .none },
      { state with queries := state.queries + 1 })

variable (config : Config) (codec : Nat) (context : QueryContext)

/-- A query without a plan. -/
def forwardUnplanned : Code (Option Point) := do
  let codec ← sessionUpstream
  if ← beginActiveQuery context context.packetID then
    forwardOrdinary config codec context
  else
    refuseAndLeave context (markUnspentIfSigned context.query (config.refusal .racedActiveQuery))

/-- The plan the hooks installed decides the lane of an admitted query. -/
def runPlans (compressed : Bool) : Code (Option Point) := do
  let plans := context.plans
  let conflict := markUnspentIfSigned context.query (config.refusal .conflictingPlans)
  if plans.synthesizedInsert.isSome && (plans.agentPrepare.isSome || plans.queryOnlyValid.isSome ||
      plans.deferredInsertLimit.isSome ||
      plans.suppressUpstreamExecution || plans.abortWithSuccess) then
    refuseAfterHooks context conflict
    return endRejected context
  else
    match plans.agentPrepare, plans.queryOnlyValid, plans.synthesizedInsert with
    | some plan, _, _ => runAgentPrepare config context plan
    | none, some valid, _ =>
      if plans.deferredInsertLimit.isSome ||
          plans.suppressUpstreamExecution || plans.abortWithSuccess then
        refuse context conflict
        return nextPacket
      else
        runQueryOnly config context valid
    | none, none, some plan => runSynthesizedInsert config context compressed plan
    | none, none, none =>
      if plans.abortWithSuccess then
        abortWithSuccess context
      else
        match plans.deferredInsertLimit with
        | none => forwardUnplanned config context
        | some limit =>
          if plans.suppressUpstreamExecution then
            refuseAfterHooks context conflict
            return endRejected context
          else
            runDeferredInsert config context limit

/-- The hooks admit a query, and their plan chooses its lane. -/
def admitQuery : Code (Option Point) := do
  match ← onQuery context with
  | .error error =>
    refuse context (markUnspentIfSigned context.query error)
    return endRejected context
  | .ok admitted =>
    onlyIf config.hasFailover (noteFailoverStatement admitted)
    runPlans config admitted context.query.compressed

/-- Refuse a query that no hook saw. -/
def refuseUnseen (error : HookError) : Code (Option Point) := do
  writeExceptionToClient (some context.number) (markUnspentIfSigned context.query error)
  leaveClient

/-- After an opaque result the connection takes no other query. -/
def rejectOpaqueReuse : Code (Option Point) := do
  if ← awaitOrDone (·.opaqueDone.isSome) then
    if ← observe fun state => state.opaqueDone == some true then
      leaveClient
    else
      refuseUnseen context (config.refusal .opaqueProbeFailed)
  else
    refuseUnseen context (config.refusal .opaqueProbeFailed)

variable (locals : ClientLocals)

/-- A Query packet, which must not come during an input. -/
def clientQuery (query : Query) : Code (Option Point) := do
  let context ← newQueryContext query
  match locals.current, locals.rejected with
  | some current, _ =>
    writeExceptionToClient (some context.number)
      (markUnspentIfSigned context.query (config.refusal .queryBeforeInputComplete))
    abortAndComplete current.context
    leaveClient
  | none, some _ => refuseUnseen context (config.refusal .queryBeforeRejectedInput)
  | none, none =>
    if ← observe (·.opaqueMode) then
      rejectOpaqueReuse config context
    else if (← currentActiveQuery).isSome then
      refuseUnseen context (config.refusal .queryBeforeUpstreamComplete)
    else
      admitQuery config context

variable (packet : ClientPacket)

/-- The packet goes upstream and the pump takes the next one. -/
def splice : Code (Option Point) := do
  let query := locals.current.map (·.context.number)
  if ← spliceClientPacket config codec query packet false then
    return some (.client locals)
  else
    leaveClient

/-- The empty block that ends the input. -/
def spliceTerminator (rejected : Bool) (data : DataPacket) : Code (Option Point) := do
  if ← spliceClientPacket config codec context.number (.data data) true then
    if rejected then
      return nextPacket
    else
      onQueryInputComplete context
      return nextPacket
  else
    leaveClient

/-- Only the rejection of a staged query leaves the session as it is. -/
def armRejection (error : HookError) : Code Bool :=
  if keepsSession error && context.plans.suppressUpstreamExecution then
    rejectActiveQueryTerminal context.query.id (exceptionForPluginError error)
  else
    pure false

/-- The terminating empty Data block. -/
def inputComplete (data : DataPacket) : Code (Option Point) := do
  match ← onQueryInputCompleteStrict context [] with
  | none => spliceTerminator config codec context false data
  | some error =>
    if ← armRejection context error then
      onQueryAbort context
      spliceTerminator config codec context true data
    else
      refuseAndLeave context error

/-- Data with rows; the payload of a staged query stays here. -/
def inputPayload (current : CurrentQuery) (data : DataPacket) : Code (Option Point) := do
  let locals := { ClientLocals.fresh with
      current := some { current with sawPayload := true } }
  match ← onClientDataStrict current.context data.raw with
  | some error => refuseAndLeave current.context (markUnspentIfSigned current.context.query error)
  | none =>
    if current.context.plans.suppressUpstreamExecution then
      return some (.client locals)
    else
      splice config codec locals (.data data)

/-- A Data packet of the query in its input. -/
def clientData (data : DataPacket) : Code (Option Point) := do
  match data.info, locals.rejected, locals.current with
  | none, _, some current =>
    abortAndComplete current.context
    leaveClient
  | none, _, none => leaveClient
  | some info, some rejected, _ =>
    if info.empty then
      return some (.client { locals with rejected := none })
    else
      return some (.client { locals with rejected := some rejected })
  | some _, none, none => leaveClient
  | some info, none, some current =>
    if info.empty then
      if config.queryMayStreamClientData current.context.query.body &&
          !current.sawPayload && !current.sawInitialEmpty then
        splice config codec { ClientLocals.fresh with
            current := some { current with sawInitialEmpty := true } }
          (.data data)
      else
        inputComplete config codec current.context data
    else
      inputPayload config codec current data

/-- The allowance that a query-only completion leaves for one marker. -/
def takeLateMarker : Code Bool :=
  atomically fun state => (state.lateMarkerAllowed, { state with lateMarkerAllowed := false })

/-- An empty block without a name. -/
def isLateMarker : Bool :=
  match packet with
  | .data data => data.info == some ⟨[], true⟩
  | _ => false

/-- A Query packet, decoded or not. -/
def isQueryPacket : Bool :=
  match packet with
  | .query _ | .undecodedQuery _ => true
  | _ => false

/-- A packet of the client by its kind. -/
def dispatchPacket : Code (Option Point) := do
  match packet with
  | .query query => clientQuery config locals query
  | .data data => clientData config codec locals data
  | .cancel _ =>
    cancelActiveQuery
    splice config codec locals packet
  | .undecodedQuery _ | .other _ _ => splice config codec locals packet

/-- A late marker of a query that is over is dropped. -/
def clientPacket : Code (Option Point) := do
  if ← takeLateMarker then
    if isQueryPacket packet then
      dispatchPacket config codec locals packet
    else if isLateMarker packet then
      return some (.client locals)
    else
      leaveClient
  else
    dispatchPacket config codec locals packet

/-- A Data packet over the limit ends the query it belongs to. -/
def refuseTooLarge (limited : Option QueryContext) : Code (Option Point) := do
  match limited with
  | none =>
    writeExceptionToClient none (config.refusal .packetTooLarge)
    leaveClient
  | some context =>
    refuseAndLeave context (markUnspentIfSigned context.query (config.refusal .packetTooLarge))

/-- A packet that a signed lane has read already comes first. -/
def nextClientRead (prefetched : Option ClientRead) (limited : Bool) : Code ClientRead :=
  match prefetched with
  | some read => pure read
  | none => readClient limited

/-- A round of the client pump. -/
def clientToUpstream : Code (Option Point) := do
  let codec ← sessionUpstream
  let limited := (locals.current.map (·.context)).or locals.rejected
  let limit ← clientDataReadLimit
  let read ← nextClientRead locals.prefetched limit.isSome
  let rest := { locals with prefetched := none }
  match read with
  | .tooLarge => refuseTooLarge config limited
  | .eof | .closedPipe | .failed => leaveClient
  | .packet (.undecodedQuery raw) =>
    if ← askFlag then
      writeExceptionToClient none (config.refusal .undecodableQuery)
      leaveClient
    else
      clientPacket config codec rest (.undecodedQuery raw)
  | .packet packet => clientPacket config codec rest packet

/-! ## Upstream packets -/

/-- `deliverDeferredInput`. -/
def deliver (gate : Nat) : Code Unit := do
  markDelivered gate
  clearDeferredInput gate

/-- The query of a gate is over: the slot is freed and the hooks run once. -/
def completeAndDeliver (gate : Nat) : Code Unit := do
  let _ ← takeActiveQuery
  completeGate gate
  deliver gate

/-- Stop the writer; the answer is false when the context ended. -/
def stopDeferredInput (gate : Nat) : Code Bool := do
  stopWriter gate
  abortGate gate
  awaitOrDone fun state => (state.gate gate).done

/-- `unblockDeferredInputOnServerExit` for an installed gate. -/
def unblockInput (gate : Nat) : Code Unit := do
  if ← claimUpstreamLifecycle gate then
    stopWriter gate
    abortGate gate
    await fun state => (state.gate gate).done
    completeAndDeliver gate
  else
    await fun state => (state.gate gate).done
    clearDeferredInput gate

variable (gate : Option Nat)

/-- Let a writer go, if there is one. -/
def unblockDeferredInput : Code Unit :=
  match gate with
  | some gate => unblockInput gate
  | none => pure ()

/-- The deferred calls of `upstreamToClient`. -/
def leaveUpstream : Code (Option Point) := do
  settleDeferredSample .failed
  let gate ← currentDeferredInput
  unblockDeferredInput gate
  modify fun state => { state with upstreamExited := true }
  return none

/-- The query of a gate cannot go on: stop the writer, complete once. -/
def failGate (gate : Nat) : Code (Option Point) := do
  let stopped ← stopDeferredInput gate
  onlyIf stopped (completeAndDeliver gate)
  leaveUpstream

/-- The end of the upstream pump, unless the session was rebound. -/
def upstreamFailed (codec : Nat) : Code (Option Point) := do
  let bound ← sessionUpstream
  if bound ≠ codec then
    -- A rebind closed the old upstream under the read.
    return some .upstream
  else
    match ← currentDeferredInput with
    | some gate =>
      if ← claimUpstreamLifecycle gate then
        settleDeferredSample .failed
        failGate gate
      else
        leaveUpstream
    | none =>
      let taken ← takeActiveQuery
      onlyIf taken onQueryComplete
      leaveUpstream

/-- The bytes of an opaque result reach the client as they are. -/
def relayRaw (bytes : Bytes) : Code Bool :=
  if bytes = [] then
    pure true
  else
    attempt fun _ state => state.record (.rawRelayed codec state.activeNumber bytes)

/-- Bytes of the upstream as they come. -/
def readRaw : Code (Bytes × Bool) := .ask fun
    | .rawRead bytes ended, _ => some (bytes, ended)
    | _, _ => none

/-- From here on nothing is decoded. -/
def startOpaqueCompletionProbe : Code Bool := atomically fun state =>
    if state.opaqueMode then
      (false, state)
    else
      (true, { state with opaqueMode := true, opaqueDone := none })

/-- The flags are a commit gate event and a chunked client connection. -/
def relayOpaqueResult (first : Bytes) : Code (Option Point) := do
  if (← currentActiveQuery).isNone then
    upstreamFailed codec
  else if ← askFlag then
    upstreamFailed codec
  else if ← askFlag then
    upstreamFailed codec
  else if ← startOpaqueCompletionProbe then
    if first = [] then
      upstreamFailed codec
    else if ← relayRaw codec first then
      return some (.opaqueCopy codec)
    else
      upstreamFailed codec
  else
    upstreamFailed codec

/-- Copy bytes that the relay cannot decode. -/
def opaqueCopy (codec : Nat) : Code (Option Point) := do
  let read ← readRaw
  let whole ← relayRaw codec read.1
  if whole && !read.2 then return some (.opaqueCopy codec) else upstreamFailed codec

/-- What is known of a packet when it is decoded. -/
structure Decoded where
  codec : Nat
  packet : ServerPacket
  waiting : Bool
  gate : Option Nat
  terminator : Bool
  canceled : Bool

variable (packet : ServerPacket)

/-- The answer is complete. -/
def ServerPacket.isEndOfStream : Bool :=
  match packet with
  | .endOfStream _ => true
  | _ => false

/-- The query failed. -/
def ServerPacket.isException : Bool :=
  match packet with
  | .exception _ => true
  | _ => false

/-- The packet ends an answer. -/
def ServerPacket.isTerminal : Bool :=
  packet.isEndOfStream || packet.isException

/-- The client has the end of the gate's answer, or cannot get it. -/
def exposeGate (exposed : Bool) : Code Unit := do
  match gate with
  | some gate =>
    finishTerminalExposure gate exposed
    deliver gate
  | none => return ()

variable (decoded : Decoded)

/-- The terminal bytes follow the terminal hooks. -/
def exposeTerminal (query : Option Nat) (packet : ServerPacket) (fatal : Bool) :
    Code (Option Point) := do
  let whole ← relayTerminal decoded.codec query packet
  exposeGate decoded.gate whole
  if whole && !fatal then return some .upstream else leaveUpstream

/-- An EndOfStream is a success unless the query was given up before. -/
def succeedTerminal (taken : Option TakenQuery) : Code Unit :=
  match taken with
  | some query =>
    onlyIf (packet.isEndOfStream && !query.canceled && query.rejection.isNone)
      (tell (.onQuerySuccess query.number))
  | none => pure ()

/-- A gate completes its query once. -/
def completeOnce (active : Bool) : Code Unit :=
  match gate with
  | some gate => completeGate gate
  | none => onlyIf active onQueryComplete

/-- The hooks at the end of an answer. -/
def completeTerminal (taken : Option TakenQuery) : Code Unit := do
  succeedTerminal decoded.packet taken
  completeOnce decoded.gate taken.isSome
  onlyIf taken.isSome endTerminalHooks

/-- The packet with the exception as the hooks leave it. -/
def rewritePacket : Code ServerPacket :=
  match packet with
  | .exception _ => do
      let rewritten ← onException
      return .exception rewritten
  | other => pure other

/-- An EndOfStream or Exception whose writer has come to rest. -/
def terminalPacket (fatal : Bool) : Code (Option Point) := do
  let packet ← rewritePacket decoded.packet
  let taken ← takeActiveQueryTerminal
  completeTerminal decoded taken
  let shown :=
    match taken.bind (·.rejection) with
    | some rejection => .exception rejection
    | none => packet
  exposeTerminal decoded (taken.map (·.number)) shown fatal

/-- The context ended while a terminal waited for the writer. -/
def leaveStopped (gate : Nat) : Code (Option Point) := do
  stopWriter gate
  abortGate gate
  leaveUpstream

/-- Wait until the writer has stopped. -/
def awaitWriter (gate : Nat) : Code Bool := awaitOrDone fun state => (state.gate gate).done

/-- An exception for a query in its input. -/
def gatedException (gate : Nat) (exception : Exception) : Code (Option Point) := do
  if decoded.canceled then
    if ← awaitWriter gate then terminalPacket decoded false else leaveUpstream
  else if decoded.waiting && (← observeGate gate (·.marker)) then
    -- Rejected at the sample step: no payload write began.
    abortGate gate
    if ← awaitWriter gate then terminalPacket decoded false else leaveStopped gate
  else if config.isSessionPreserving exception then
    if ← awaitWriter gate then
      abortGate gate
      terminalPacket decoded false
    else
      leaveStopped gate
  else if ← stopDeferredInput gate then
    terminalPacket decoded true
  else
    leaveUpstream

/-- The end of an answer for a query in its input. -/
def gatedEndOfStream (gate : Nat) : Code (Option Point) := do
  if decoded.terminator || decoded.canceled then
    if ← awaitWriter gate then terminalPacket decoded false else leaveStopped gate
  else
    failGate gate

/-- A packet in the middle of an answer that the client cannot take. -/
def splicedFailed : Code (Option Point) := do
  match decoded.gate with
  | none => leaveUpstream
  | some gate =>
    if ← claimUpstreamLifecycle gate then
      onlyIf decoded.waiting (settleDeferredSample .failed)
      failGate gate
    else
      leaveUpstream

/-- A packet of an answer. -/
def answerPacket : Code (Option Point) := do
  match decoded.packet, decoded.gate with
  | .exception exception, some gate => gatedException config decoded gate exception
  | .endOfStream _, some gate => gatedEndOfStream decoded gate
  | .exception _, none | .endOfStream _, none => terminalPacket decoded false
  | packet, _ =>
    if ← relayPacket decoded.codec packet then return some .upstream else splicedFailed decoded

/-- An EndOfStream where the sample block was due. -/
def prematureEnd : Code (Option Point) := do
  settleDeferredSample .failed
  match decoded.gate with
  | some gate => failGate gate
  | none =>
    let taken ← takeActiveQuery
    onlyIf taken onQueryComplete
    leaveUpstream

/-- The sample and its columns are not relayed. -/
def samplePacket : Code (Option Point) := do
  match decoded.packet with
  | .data raw =>
    consumeSample raw
    return some .upstream
  | .tableColumns _ => return some .upstream
  | .endOfStream _ =>
    if decoded.canceled then
      settleDeferredSample (.block none)
      answerPacket config decoded
    else
      prematureEnd decoded
  | .exception exception =>
    settleDeferredSample (.exception exception)
    answerPacket config decoded
  | .other _ _ => answerPacket config decoded

/-- A sample or an answer. -/
def dispatchDecoded : Code (Option Point) :=
  if decoded.waiting then samplePacket config decoded else answerPacket config decoded

/-- Decoding a terminal decides who ends the query of the gate. -/
def arbitrate (gate : Nat) : Code (Option Point) := do
  let cancel ← terminalCancel gate
  if ← claimUpstreamLifecycle gate then
    match cancel with
    | none =>
      settleDeferredSample .failed
      failGate gate
    | some canceled =>
      onlyIf (decoded.packet.isException || canceled || (!decoded.waiting && decoded.terminator))
        (publishUpstreamTerminal gate)
      dispatchDecoded config { decoded with canceled := canceled }
  else
    leaveUpstream

/-- The input of the query is complete. -/
def terminatorWritten : Code Bool :=
  observe fun state => gate.any fun gate => (state.gate gate).terminator

/-- A decoded packet, with the gate as it is now. -/
def upstreamPacket : Code (Option Point) := do
  let waiting ← deferredSampleArmed
  let gate ← currentDeferredInput
  let terminator ← terminatorWritten gate
  let decoded : Decoded := ⟨codec, packet, waiting, gate, terminator, false⟩
  match gate with
  | some gate =>
    if packet.isTerminal then arbitrate config decoded gate else dispatchDecoded config decoded
  | none => dispatchDecoded config decoded

/-- The read, after a move to a replica. -/
def afterFailover (read : UpstreamRead) : Code (Option (Nat × UpstreamRead)) :=
  if config.hasFailover then failoverRead codec read else pure (some (codec, read))

/-- A round of the upstream pump. -/
def upstreamToClient (config : Config) : Code (Option Point) := do
  let codec ← sessionUpstream
  let read ← readUpstream codec
  match ← afterFailover config codec read with
  | none => return some .upstream
  | some (source, .packet packet) => upstreamPacket config source packet
  | some (_, .unsupported first) => relayOpaqueResult codec first
  | some (_, .eof) | some (_, .failed) => upstreamFailed codec

/-! ## The whole relay -/

/-- `runPostHandshake` closes the session once one pump has ended. -/
def supervise : Code (Option Point) := do
  await fun state => state.clientExited || state.upstreamExited
  modify fun state => { state with closing := true }
  await fun state => state.clientExited && state.upstreamExited
  tell .onClose
  return none

/-- Whether the upstream was seen to finish the opaque result. -/
def watchOpaque : Code Bool := .ask fun
    | .flag finished, state =>
      if state.opaqueMode && state.opaqueDone.isNone then some finished else none
    | _, _ => none

/-- The probe found the query finished. -/
def completeOpaque : Code Unit := do
  let taken ← takeActiveQuery
  onlyIf taken onQueryComplete

/-- The goroutine that watches the upstream finish an opaque result. -/
def probe : Code (Option Point) := do
  let finished ← watchOpaque
  onlyIf finished completeOpaque
  modify fun state => { state with opaqueDone := some finished }
  return none

/-- The context of the server ends. -/
def shutdown : Code (Option Point) := do
  modify fun state => { state with contextDone := true }
  return none

/-- The goroutines of a relay. -/
inductive Thread where
  | client
  | upstream
  | worker
  | supervisor
  | probe
  | shutdown
  deriving DecidableEq

/-- The code of a loop head. -/
def pointCode (point : Point) : Code (Option Point) :=
  match point with
  | .client locals => clientToUpstream config locals
  | .awaitPrepare context preparation => awaitPrepare config context preparation
  | .agentStage context preparation stage forwardWon =>
    agentStage config context preparation stage forwardWon
  | .queryOnly context markerSeen canceled => queryOnly config context markerSeen canceled
  | .collect context collected =>
    collect config context (context.plans.deferredInsertLimit.getD 0) collected
  | .awaitSample lane => awaitSample config lane
  | .awaitTerminal lane => awaitTerminal lane
  | .upstream => upstreamToClient config
  | .opaqueCopy codec => opaqueCopy codec
  | .stageWorker => stageWorker
  | .supervise => supervise
  | .probe => probe
  | .shutdown => shutdown

/-- All threads run the same code. -/
def relayCode : ProgramPool.Code Thread State Answer Point := fun _ point => pointCode config point

/-- The loop head of a thread. -/
def Thread.first (thread : Thread) : Point :=
  match thread with
  | .client => .client .fresh
  | .upstream => .upstream
  | .worker => .stageWorker
  | .supervisor => .supervise
  | .probe => .probe
  | .shutdown => .shutdown

abbrev Pool := ProgramPool.Pool Thread State Answer Point

/-- A session after its handshake. -/
def started (logicalDatabase : Bytes) : Pool :=
  ProgramPool.start (.initial config.hasFailover logicalDatabase)
    fun thread => some thread.first

/-- The relay after the inputs a scheduler and the outside chose. -/
def run (logicalDatabase : Bytes) (inputs : List (Thread × Answer)) : Pool :=
  ProgramPool.run (relayCode config) (started config logicalDatabase) inputs

end HouseGate.Relay
