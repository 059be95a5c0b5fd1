import HouseGate.Relay

namespace HouseGate.Relay

open DecimalText

/-!
# The signed INSERT lanes

`runDeferredInsert` collects the rows the client streams, and
`runSynthesizedInsert` encodes rows that a plan evaluated.  Both hand over to
`forwardSignedInsert`, which sends the signed statement upstream while the
other pump watches the upstream's answers.

A loop of the source is a point to which the pump returns; a round of the loop
is one program.
-/

/-- The relay's own refusals; their wording is not modelled. -/
inductive Refusal where
  | packetTooLarge
  | undecodableQuery
  | queryBeforeInputComplete
  | queryBeforeRejectedInput
  | opaqueProbeFailed
  | queryBeforeUpstreamComplete
  | conflictingPlans
  | noContinuation
  | racedActiveQuery
  | agentPrepare
  | agentStage
  | queryOnly
  | deferredLimitMissing
  | payloadTooLarge
  | externalTable
  | strictHook
  | unexpectedPacket
  | synthesizedPlan
  | encoding
  | sampleMismatch

/-- What the relay takes from elsewhere. -/
structure Config where
  wording : Refusal → Bytes
  queryMayStreamClientData : Bytes → Bool
  supportsContinuation : Bool
  hasFailover : Bool
  parseSampleColumns : Bytes → Option (List SampleColumn)
  isSessionPreserving : Exception → Bool

/-- A refusal as the client reads it. -/
def Config.refusal (config : Config) (refusal : Refusal) : HookError :=
  relayError (config.wording refusal)

/-- The query whose input the client is sending. -/
structure CurrentQuery where
  context : QueryContext
  sawInitialEmpty : Bool
  sawPayload : Bool

/-- The variables of `clientToUpstream` that outlive one packet. -/
structure ClientLocals where
  current : Option CurrentQuery
  rejected : Option QueryContext
  prefetched : Option ClientRead

/-- The client's pump between two queries. -/
def ClientLocals.fresh : ClientLocals := { current := none, rejected := none, prefetched := none }

/-- The rows a deferred INSERT has collected so far. -/
structure Collected where
  marker : Option Bytes
  sawPayload : Bool
  packets : List Bytes
  bytes : Nat

/-- `signedInsertForward` with the gates and the codec it works on. -/
structure SignedLane where
  context : QueryContext
  forwardCancel : Bool
  sampleColumns : Option (List SampleColumn)
  marker : Bytes
  terminator : Option Bytes
  payload : List Bytes
  codec : Nat
  gate : Nat
  sample : Nat

/-- Where a thread of the relay continues. -/
inductive Point where
  | client (locals : ClientLocals)
  | awaitPrepare (context : QueryContext) (preparation : Preparation)
  | agentStage (context : QueryContext) (preparation : Preparation) (stage : Stage)
      (forwardWon : Bool)
  | queryOnly (context : QueryContext) (markerSeen canceled : Bool)
  | collect (context : QueryContext) (collected : Collected)
  | awaitSample (lane : SignedLane)
  | awaitTerminal (lane : SignedLane)
  | upstream
  | opaqueCopy (codec : Nat)
  | stageWorker
  | supervise
  | probe
  | shutdown

/-- The client pump goes on with the next packet. -/
def nextPacket : Option Point := some (.client .fresh)

/-- The client pump ends and tells `runPostHandshake`. -/
def leaveClient : Code (Option Point) := do
  modify fun state => { state with clientExited := true }
  return none

variable (config : Config) (context : QueryContext)
  (error : HookError)

/-- Nothing of the query was sent upstream. -/
def rejectUnsent : Code Unit := do
  abortUnsentQuery context
  writeExceptionToClient (some context.number) error

/-- The session ends with the query. -/
def rejectClose : Code (Option Point) := do
  rejectUnsent context error
  leaveClient

/-- The session outlives the query. -/
def rejectResume : Code (Option Point) := do
  rejectUnsent context error
  return nextPacket

/-- A lane that ends before the upstream heard of the query. -/
def abandonUnsent : Code (Option Point) := do
  abortUnsentQuery context
  leaveClient

/-! ## Forwarding -/

variable (lane : SignedLane)

/-- The deferred calls of `forwardSignedInsert`. -/
def endForward : Code Unit := do
  clearSignedQueryWrite lane.context
  finishWriter lane.gate

/-- The lane ends, and the session with it. -/
def leaveForward : Code (Option Point) := do
  endForward lane
  leaveClient

variable (prefetched : Option ClientRead)

/-- The lane ends, and the next query may come. -/
def resumeForward : Code (Option Point) := do
  endForward lane
  return some (.client { ClientLocals.fresh with prefetched := prefetched })

/-- Wait until the client has the terminal packet. -/
def awaitDelivered : Code Bool :=
  awaitOrDone fun state => (state.gate lane.gate).delivered

/-- The writer gives up, unless the upstream has ended the query. -/
def abortFromWriter : Code (Option Point) := do
  disarmDeferredSample
  if ← claimWriterLifecycle lane.gate then
    stopWriter lane.gate
    abortGate lane.gate
    finishWriter lane.gate
    let _ ← takeActiveQuery
    completeGate lane.gate
    markDelivered lane.gate
    leaveForward lane
  else
    finishWriter lane.gate
    let _ ← awaitDelivered lane
    leaveForward lane

/-- The upstream has ended the query before its input. -/
def abortAfterTerminal : Code (Option Point) := do
  finishWriter lane.gate
  let _ ← awaitDelivered lane
  leaveForward lane

def terminalObserved : Code Bool := observeGate lane.gate (·.terminal)

def terminalExposed : Code Bool := observeGate lane.gate (·.exposed)

/-- A failed write is the upstream's doing if it ended the query first. -/
def writeFailed : Code (Option Point) := do
  if ← terminalObserved lane then abortAfterTerminal lane else abortFromWriter lane

/-- Hand a cancel packet on, if the lane does that. -/
def forwardCancel (raw : Bytes) : Code (Option Point) := do
  if lane.forwardCancel then
    if ← beginCancel lane.gate then
      let whole ← writeUpstream lane.codec lane.context.number (.cancel raw)
      finishCancel lane.gate whole
      finishWriter lane.gate
      if whole then return some (.awaitTerminal lane) else abortFromWriter lane
    else
      finishWriter lane.gate
      return some (.awaitTerminal lane)
  else
    abortFromWriter lane

/-- Sign the collected payload, send the query and await its sample. -/
def forwardSignedInsert (lane : Nat → Nat → Nat → SignedLane) : Code (Option Point) := do
  match ← onQueryInputCompleteStrict context (lane 0 0 0).payload with
  | some error =>
    let wrapped := error.wrap (config.wording .strictHook)
    if keepsSession error then rejectResume context wrapped else rejectClose context wrapped
  | none =>
    let codec ← sessionUpstream
    if ← beginActiveQuery context context.query.id then
      let gate ← armDeferredInput context
      let sample ← armDeferredSample context
      let lane := lane codec gate sample
      markSignedQueryWriteBegun context
      if ← writeUpstream codec context.number (.query context.query) then
        if ← writeUpstream codec context.number (.data lane.marker true)
        then
          markMarkerWritten gate
          return some (.awaitSample lane)
        else
          writeFailed lane
      else
        abortFromWriter lane
    else
      rejectClose context (config.refusal .racedActiveQuery)

/-- What the poll of the sample gate shows. -/
inductive SamplePoll where
  | settled (result : SampleResult)
  | contextDone
  | nothing

/-- Look whether the sample block has come. -/
def pollSample : Code SamplePoll := .ask fun
    | .tick, state =>
      match state.sampleResult lane.sample with
      | some result => some (.settled result)
      | none => if state.contextDone then none else some .nothing
    | .contextDone, state => if state.contextDone then some .contextDone else none
    | _, _ => none

/-- The empty block that ends the payload. -/
def writeTerminator : Code (Option Point) := do
  let packet :=
    match lane.terminator with
    | some raw => .data raw true
    | none => .emptyBlock
  if ← writeUpstream lane.codec lane.context.number packet then
    markTerminatorWritten lane.gate
    if ← terminalObserved lane then
      abortAfterTerminal lane
    else
      onQueryInputComplete lane.context
      finishWriter lane.gate
      return some (.awaitTerminal lane)
  else
    writeFailed lane

/-- Send the payload, packet by packet. -/
def writePayload (lane : SignedLane) : List Bytes → Code (Option Point)
  | [] => writeTerminator lane
  | raw :: rest => do
      if ← terminalObserved lane then
        abortAfterTerminal lane
      else if ← writeUpstream lane.codec lane.context.number (.data raw false) then
        if ← terminalObserved lane then abortAfterTerminal lane else writePayload lane rest
      else
        writeFailed lane

/-- The client's error is written before the lane gives the query up. -/
def rejectSample : Code (Option Point) := do
  writeExceptionToClient (some lane.context.number) (config.refusal .sampleMismatch)
  abortFromWriter lane

/-- The sample allows the payload, or the query has ended. -/
def sampleSettled (result : SampleResult) : Code (Option Point) := do
  match result with
  | .failed => abortAfterTerminal lane
  | .exception _ =>
    finishWriter lane.gate
    if ← awaitDelivered lane then resumeForward lane none else leaveForward lane
  | .block raw =>
    match lane.sampleColumns with
    | none => writePayload lane lane.payload
    | some wanted =>
      match raw.bind config.parseSampleColumns with
      | none => abortFromWriter lane
      | some found =>
        if wanted = found then writePayload lane lane.payload else rejectSample config lane

/-- Wait for the sample block, and watch the client. -/
def awaitSample : Code (Option Point) := do
  match ← pollSample lane with
  | .settled result => sampleSettled config lane result
  | .contextDone => abortFromWriter lane
  | .nothing =>
    match ← waitForPacketStart with
    | .notReady => return some (.awaitSample lane)
    | .eof | .failed => abortFromWriter lane
    | .ready =>
      match ← readClient false with
      | .packet (.cancel raw) => forwardCancel lane raw
      | _ => abortFromWriter lane

/-! ## Waiting for the terminal -/

/-- What a look at the terminal packet found. -/
inductive TerminalPoll where
  | terminal
  | delivered
  | contextDone
  | nothing

/-- The answer's flag chooses where two channels are ready. -/
def pollTerminal : Code TerminalPoll := .ask fun answer state =>
    let input := state.gate lane.gate
    match answer with
    | .flag true => if input.terminal then some .terminal else none
    | .flag false => if input.delivered then some .delivered else none
    | .contextDone => if state.contextDone then some .contextDone else none
    | .tick =>
      if input.terminal || input.delivered || state.contextDone then none else some .nothing
    | _ => none

/-- The query is delivered, unless its writer was stopped. -/
def endDelivered : Code (Option Point) := do
  if ← terminalObserved lane then abortAfterTerminal lane else resumeForward lane prefetched

/-- Wait for one of the gate's ends, as the select statements do. -/
def selectEnd (ready : InputGate → Bool) : Code TerminalPoll :=
  .ask fun answer state =>
    let input := state.gate lane.gate
    match answer with
    | .flag true => if input.terminal then some .terminal else none
    | .flag false => if ready input then some .delivered else none
    | .contextDone => if state.contextDone then some .contextDone else none
    | _ => none

/-- Wait for the delivery of a terminal packet on its way. -/
def awaitExposed : Code (Option Point) := do
  if ← terminalObserved lane then
    abortAfterTerminal lane
  else if ← terminalExposed lane then
    match ← selectEnd lane (·.delivered) with
    | .terminal => abortAfterTerminal lane
    | .delivered => endDelivered lane prefetched
    | .contextDone | .nothing => leaveForward lane
  else
    let _ ← awaitDelivered lane
    leaveForward lane

/-- `none` while the upstream has not decided the query. -/
def awaitTerminalExposure (otherwise : Code (Option Point)) : Code (Option Point) := do
  if ← terminalExposed lane then
    awaitExposed lane prefetched
  else if ← observeGate lane.gate (·.terminalClaim) then
    if ← terminalExposed lane then
      awaitExposed lane prefetched
    else
      match ← selectEnd lane (·.exposureDone) with
      | .terminal => abortAfterTerminal lane
      | .delivered => awaitExposed lane prefetched
      | .contextDone | .nothing => leaveForward lane
  else
    otherwise

/-- What has been delivered needs no further wait. -/
def ifDelivered (otherwise : Code (Option Point)) : Code (Option Point) := do
  if ← observeGate lane.gate (·.delivered) then endDelivered lane prefetched else otherwise

/-- Wait for the terminal packet, and watch the client. -/
def awaitTerminal : Code (Option Point) := do
  if ← terminalObserved lane then
    abortAfterTerminal lane
  else
    match ← pollTerminal lane with
    | .terminal => abortAfterTerminal lane
    | .delivered => endDelivered lane none
    | .contextDone => abortFromWriter lane
    | .nothing =>
      match ← waitForPacketStart with
      | .notReady => return some (.awaitTerminal lane)
      | .eof | .failed =>
        awaitTerminalExposure lane none (ifDelivered lane none (abortFromWriter lane))
      | .ready =>
        let read ← readClient false
        awaitTerminalExposure lane (some read) (ifDelivered lane (some read) (match read with
            | .packet (.cancel raw) => forwardCancel lane raw
            | _ => abortFromWriter lane))

/-! ## Deferred INSERT -/

/-- A Cancel before anything was forwarded is answered here. -/
def cancelUnsent : Code (Option Point) := do
  abortUnsentQuery context
  if ← writeClient (some context.number) endOfStreamPacket then return nextPacket else leaveClient

/-- Ask the client for the data of a signed INSERT. -/
def runDeferredInsert (limit : Nat) : Code (Option Point) := do
  if limit = 0 then
    rejectClose context (config.refusal .deferredLimitMissing)
  else if ← writeClient (some context.number) (.data []) then
    return some (.collect context ⟨none, false, [], 0⟩)
  else
    abandonUnsent context

/-- Non-empty Data of a deferred INSERT. -/
def collectPayload (collected : Collected) (limit remaining : Nat)
    (raw : Bytes) : Code (Option Point) := do
  if remaining < raw.length then
    rejectClose context (config.refusal .payloadTooLarge)
  else
    match ← onClientDataStrict context raw with
    | some error => rejectClose context (error.wrap (config.wording .strictHook))
    | none =>
      let bytes := collected.bytes + raw.length
      if limit < bytes then
        rejectClose context (config.refusal .payloadTooLarge)
      else
        return some (.collect context { collected with
            sawPayload := true
            packets := collected.packets ++ [raw]
            bytes := bytes })

/-- A data packet of the client: the marker, rows or the terminator. -/
def collectData (collected : Collected) (limit remaining : Nat)
    (data : DataPacket) : Code (Option Point) := do
  match data.info with
  | none => abandonUnsent context
  | some info =>
    if info.name ≠ [] then
      rejectClose context (config.refusal .externalTable)
    else if info.empty then
      if !collected.sawPayload && collected.marker.isNone then
        return some (.collect context { collected with marker := some data.raw })
      else
        -- A client that left the marker out gets its terminator twice.
        forwardSignedInsert config context fun codec gate sample =>
          { context := context
            forwardCancel := false
            sampleColumns := none
            marker := collected.marker.getD data.raw
            terminator := some data.raw
            payload := collected.packets
            codec := codec
            gate := gate
            sample := sample }
    else
      collectPayload config context collected limit remaining data.raw

/-- Read the input up to the payload's limit. -/
def collect (limit : Nat) (collected : Collected) : Code (Option Point) := do
  let allowed ← clientDataReadLimit
  let left := limit - collected.bytes
  let remaining := min left (allowed.getD left)
  match ← readClient true with
  | .tooLarge => rejectClose context (config.refusal .payloadTooLarge)
  | .eof | .closedPipe | .failed => abandonUnsent context
  | .packet (.data data) => collectData config context collected limit remaining data
  | .packet (.cancel _) => cancelUnsent context
  | .packet _ => rejectClose context (config.refusal .unexpectedPacket)

/-! ## Synthesized INSERT -/

def totalBytes (packets : List Bytes) : Nat := (packets.map List.length).sum

/-- The rows are encoded for the revision of the session's upstream. -/
def encodeBlocks : Code (Option (List Bytes)) := .act fun answer state =>
    match answer with
    | .encoded none => some (none, state)
    | .encoded (some packets) => some (some packets, state.record (.encoded context.number packets))
    | _ => none

/-- Encode the rows of the plan, and forward them. -/
def encodeAndForward (plan : SynthesizedInsert) (marker : Bytes) : Code (Option Point) := do
  match ← encodeBlocks context with
  | none => rejectClose context (config.refusal .encoding)
  | some packets =>
    let allowed ← clientDataReadLimit
    if allowed.any (· < totalBytes packets) then
      rejectResume context (config.refusal .payloadTooLarge)
    else
      forwardSignedInsert config context fun codec gate sample =>
        { context := context
          forwardCancel := true
          sampleColumns := some plan.sampleColumns
          marker := marker
          terminator := none
          payload := packets
          codec := codec
          gate := gate
          sample := sample }

/-- An INSERT whose plan brings the rows along. -/
def runSynthesizedInsert (compressed : Bool) (plan : SynthesizedInsert) : Code (Option Point) := do
  if plan.blocks = 0 ∨ plan.sampleColumns = [] then
    rejectClose context (config.refusal .synthesizedPlan)
  else if compressed then
    rejectClose context (config.refusal .synthesizedPlan)
  else
    match ← readClient true with
    | .tooLarge => rejectClose context (config.refusal .packetTooLarge)
    | .eof | .closedPipe | .failed | .packet (.undecodedQuery _) => abandonUnsent context
    | .packet (.data data) =>
      match data.info with
      | none => abandonUnsent context
      | some info =>
        if info.name ≠ [] then
          rejectClose context (config.refusal .externalTable)
        else if info.empty then
          encodeAndForward config context plan data.raw
        else
          rejectClose context (config.refusal .unexpectedPacket)
    | .packet (.cancel _) => cancelUnsent context
    | .packet _ => rejectClose context (config.refusal .unexpectedPacket)

end HouseGate.Relay
