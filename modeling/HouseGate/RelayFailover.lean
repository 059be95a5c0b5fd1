import HouseGate.FailoverStatement
import HouseGate.RelayLanes

namespace HouseGate.Relay

open DecimalText FailoverStatement

/-!
# Replica failover of reads

While a session is eligible, the Query of a read is kept as it was written
upstream.  If its first answer is a failure that the failover moves on, the
Query and the terminator go to the replica hosts in turn, until one takes
them; its first answer decides again.  The upstream pump holds `failoverMu`
from the packet to the end of the move.  The client pump holds it for one
write at a time, so that its critical sections are single actions.
-/

/-- Take the failover lock. -/
def lockFailover : Code Unit := .act fun answer state =>
    match answer with
    | .tick =>
      if state.failoverLocked then none
      else some ((), { state with failoverLocked := true })
    | _ => none

/-- Give the failover lock back. -/
def unlockFailover : Code Unit := modify fun state => { state with failoverLocked := false }

/-- The hooks planned something. -/
def Plans.planned (plans : Plans) : Bool :=
  plans.agentPrepare.isSome || plans.queryOnlyValid.isSome ||
    plans.synthesizedInsert.isSome || plans.deferredInsertLimit.isSome ||
    plans.suppressUpstreamExecution || plans.abortWithSuccess

/-- Some statements bind the session to its replica. -/
def noteFailoverStatement (context : QueryContext) : Code Unit := modify fun state =>
    if classifyFailoverStatement context.query.body = .other ∨ context.plans.planned = true then
      { state with failoverEligible := false }
    else
      state

/-- The failover state a query starts with, if it is armed at all. -/
def State.failoverFor (state : State) (context : QueryContext) : Option FailoverQuery :=
  if state.failoverEligible then
    match classifyFailoverStatement context.query.body with
    | .other => none
    | .read => some ⟨context.number, context.query, none, true, [], false, none⟩
    | .use database => some ⟨context.number, context.query, none, false, database, false, none⟩
  else
    none

/-- Send a query and arm it for a failover. -/
def writeQuery (config : Config) (codec : Nat) (context : QueryContext) : Code Bool :=
  if config.hasFailover then
    .act fun answer state =>
      match answer with
      | .wrote whole =>
        if state.failoverLocked then
          none
        else
          let armed := { state with failoverQuery := state.failoverFor context }
          some (whole, armed.record (.toUpstream codec context.number (.query context.query) whole))
      | _ => none
  else
    writeUpstream codec context.number (.query context.query)

/-- A client packet as it is written upstream. -/
def spliced (packet : ClientPacket) : UpstreamPacket :=
  match packet with
  | .query query => .query query
  | .undecodedQuery raw => .other raw
  | .data data => .data data.raw (data.info.any (·.empty))
  | .cancel raw => .cancel raw
  | .other _ raw => .other raw

/-- What a client packet means for the armed query. -/
def State.noteSpliced (state : State) (packet : ClientPacket) (inputComplete : Bool) : State :=
  match state.failoverQuery, packet with
  | some armed, .data data =>
    if inputComplete && armed.terminator.isNone then
      { state with
        failoverQuery := some { armed with terminator := some data } }
    else
      { state with failoverEligible := false, failoverQuery := none }
  | some armed, _ =>
    { state with
      failoverEligible := state.failoverEligible && armed.use.isEmpty
      failoverQuery := none }
  | none, .data _ =>
    { state with
      failoverEligible := state.failoverEligible && inputComplete }
  | none, _ => state

/-- With a failover the packet goes to the upstream bound by then. -/
def spliceClientPacket (config : Config) (codec : Nat) (query : Option Nat) (packet : ClientPacket)
    (inputComplete : Bool) : Code Bool :=
  if config.hasFailover then
    .act fun answer state =>
      match answer with
      | .wrote whole =>
        if state.failoverLocked then
          none
        else
          some (whole, (state.noteSpliced packet inputComplete).record
              (.toUpstream state.upstream query (spliced packet) whole))
      | _ => none
  else
    writeUpstream codec query (spliced packet)

/-! ## Moving a read -/

variable (armed : FailoverQuery)

/-- Whether a first answer may be a failure to move on. -/
def mayFailOver (read : UpstreamRead) : Bool :=
  match read with
  | .packet (.exception _) | .eof | .failed => armed.read && !armed.answered
  | .packet _ | .unsupported _ => false

/-- `Reason`, and whether the session is still there to be moved. -/
def failsOver (read : UpstreamRead) : Code Bool := do
  if mayFailOver armed read then
    if ← askFlag then observe fun state => !state.closing && !state.contextDone else return false
  else
    return false

/-- The read's own answer, the owner's or the serving candidate's. -/
def State.noteAnswer (state : State) (read : UpstreamRead) : State :=
  match state.failoverQuery, read with
  | none, _ => state
  | some _, .eof | some _, .failed | some _, .packet (.exception _) =>
    { state with failoverQuery := none }
  | some armed, .packet (.endOfStream _) =>
    { state with
      failoverQuery := none
      logicalDatabase :=
        if armed.use = [] then state.logicalDatabase else armed.use }
  | some armed, .packet _ | some armed, .unsupported _ =>
    { state with
      failoverQuery := some { armed with answered := true, moving := none } }

/-- Other replicas, if there are any. -/
def failoverCandidates : Code (Option (List Bytes)) := .ask fun
    | .candidates (some []), _ => some none
    | .candidates addresses, _ => some addresses
    | _, _ => none

/-- Connect to a replica. -/
def dialCandidate : Code (Option Nat) := .act fun answer state =>
    match answer with
    | .flag true => some (some state.codecs, { state with codecs := state.codecs + 1 })
    | .flag false => some (none, state)
    | _ => none

variable (codec : Nat)

/-- A packet of the armed query for a candidate, if there is one. -/
def writeArmed (packet : FailoverQuery → Option UpstreamPacket) : Code Bool :=
  .act fun answer state =>
    match answer, state.failoverQuery with
    | .wrote whole, some armed =>
      match packet armed with
      | none => some (true, state)
      | some packet => some (whole, state.record (.resent codec armed.number packet whole))
    | _, _ => none

/--
Dial, hello, revision and time zone are one answer of the outside; then the
Query and the terminator, if the client has sent it already.
-/
def prepareReadCandidate : Code (Option Nat) := do
  match ← dialCandidate with
  | none => return none
  | some codec =>
    if ← writeArmed codec fun armed => some (.query armed.query) then
      if ← writeArmed codec fun armed =>
          armed.terminator.map fun data =>
            .data data.raw (data.info.any (·.empty)) then
        return some codec
      else
        return none
    else
      return none

/-- Bind the session to the replica. -/
def rebindUpstream : Code Bool := .act fun answer state =>
    match answer with
    | .flag true =>
      some (true, { state with
          upstream := codec
          history := .rebound codec :: state.history })
    | .flag false => some (false, state)
    | _ => none

/-- The candidates still left once one of them took the read. -/
def readFailoverTo : List Bytes → Code (Option (List Bytes))
  | [] => return none
  | _ :: remaining => do
      match ← prepareReadCandidate with
      | none => readFailoverTo remaining
      | some codec =>
        if ← rebindUpstream codec then
          if ← observe (·.closing) then return none else return some remaining
        else
          readFailoverTo remaining

/-- The failure that started the move and the candidates not tried yet. -/
def startMove (read : UpstreamRead) : Code (Option ReadFailover) := do
  match armed.moving with
  | some moving => return some moving
  | none =>
    match ← failoverCandidates with
    | none => return none
    | some addresses => return some ⟨codec, addresses, read⟩

/-- The query is moved no more. -/
def disarmFailover : Code Unit := modify fun state => { state with failoverQuery := none }

/-- Remember how far the move got. -/
def setMoving (moving : ReadFailover) : Code Unit := modify fun state =>
    { state with
      failoverQuery := state.failoverQuery.map fun armed => { armed with moving := some moving } }

/--
What the loop handles and the upstream it came from, or none once the read has
moved.
-/
def failoverRead (read : UpstreamRead) : Code (Option (Nat × UpstreamRead)) := do
  lockFailover
  match ← observe (·.failoverQuery) with
  | none =>
    unlockFailover
    return some (codec, read)
  | some armed =>
    if ← failsOver armed read then
      match ← startMove armed codec read with
      | none =>
        disarmFailover
        unlockFailover
        return some (codec, read)
      | some moving =>
        match ← readFailoverTo moving.remaining with
        | none =>
          disarmFailover
          unlockFailover
          return some (moving.owner, moving.original)
        | some remaining =>
          setMoving { moving with remaining := remaining }
          unlockFailover
          return none
    else
      modify fun state => state.noteAnswer read
      unlockFailover
      return some (codec, read)

end HouseGate.Relay
