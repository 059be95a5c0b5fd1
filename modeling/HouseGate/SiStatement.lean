import HouseGate.LaneSelector
import HouseGate.StatementId
import HouseGate.TaskPool

namespace HouseGate.SiStatement

open DecimalText AsciiText Utf8Text StatementId LaneSelector TaskPool LanePool Function

/-!
# The agent's statement plugin

The hooks of the plugin as calls over its shared state.  A section of a call is
what the source does under one lock, or one operation on a lane store.  The
stores answer as they like, and so do the clock, the entropy source and the
signer.

Every reservation and every in-flight slot gets a number of its own, so that a
history can tell two uses of one seq apart.  The numbers stand for the identity
of the objects in the source, nothing depends on them.
-/

abbrev Session := Nat

abbrev Network := Bytes

/-- The settings that the plugin reads. -/
structure Config where
  account : Bytes
  mode : LaneMode
  maxInflight : Nat
  maxPayload : Nat
  /-- One counter serves every network. -/
  seq : Bool

/-- A statement whose input is still coming. -/
structure PendingStatement where
  queryID : Bytes
  networkID : Network
  database : Bytes
  lanesEnabled : Bool
  clientRevision : Nat
  payload : Bytes
  deriving DecidableEq

/-- The object that issues the seqs of a lane. -/
inductive Store where
  | seq
  | counter (opened : Nat)
  | client (store : Nat)
  deriving DecidableEq

/-- A number reserved for a statement. -/
structure ReservedSeq where
  id : Nat
  slot : Nat
  statementID : Bytes
  lane : SeqLane
  seq : Nat
  networkID : Network
  database : Bytes
  resolved : Bool

/-- A statement in flight that was picked and not done yet. -/
structure Slot where
  id : Nat
  session : Session
  networkID : Network
  lane : Lane

/-- What the hooks of all sessions share. -/
structure Shared where
  pending : Session → Option PendingStatement
  reserved : Session → Option ReservedSeq
  useDB : Session → Bytes
  useNext : Session → Option (Bytes × Bytes)
  nonSwitchable : Session → Bool
  statefulNext : Session → Option Bytes
  seqs : Network → Option Nat
  selectors : Network → Option Selector
  seqClosed : Bool
  retired : Nat → Bool
  slots : List Slot
  nextReservation : Nat
  nextSlot : Nat
  nextCounter : Nat
  nextStore : Nat

def Shared.new : Shared where
  pending := fun _ => none
  reserved := fun _ => none
  useDB := fun _ => []
  useNext := fun _ => none
  nonSwitchable := fun _ => false
  statefulNext := fun _ => none
  seqs := fun _ => none
  selectors := fun _ => none
  seqClosed := false
  retired := fun _ => false
  slots := []
  nextReservation := 0
  nextSlot := 0
  nextCounter := 0
  nextStore := 0

/-- What the checks of `OnQuery` make of a statement. -/
inductive Classified where
  | use (db : Bytes)
  | passed (stateful : Bool)
  | claimed (stateful : Bool) (statement : PendingStatement)
  deriving DecidableEq

/-- The encoded packets of a synthesized INSERT. -/
structure SynthesizedInsert where
  upstreamRevision : Option Nat
  packets : List Bytes
  payloadBytes : Nat
  deriving DecidableEq

/-- The plugin's hooks, with what they read. -/
inductive Hook where
  | onQuery (queryID : Bytes) (classified : Classified)
  | onClientDataStrict (queryID raw : Bytes)
  | onQueryInputCompleteStrict (queryID : Bytes) (synthesized : Option SynthesizedInsert)
  | onException (message : Bytes)
  | onQueryAbort (queryID : Bytes) (upstreamQueryUnsent : Bool)
  | onQuerySuccess (queryID : Bytes)
  | onQueryComplete
  | onClose
  | closePlugin
  deriving DecidableEq

/-- Why the store issued no number. -/
inductive StoreError where
  | closed
  | locked
  | other
  deriving DecidableEq

/-- Why a lane is given up. -/
inductive LaneRotation where
  | none
  | gapBudget
  | laneBudget
  | lanesDisabled
  deriving DecidableEq

/-- What a call has still to do, one entry for each section. -/
inductive Section where
  | hook (hook : Hook)
  | claim (statement : PendingStatement)
  | selectorFor (statement : PendingStatement)
  | pick (statement : PendingStatement) (attempt : Nat)
  | reserveStatementID (statement : PendingStatement) (attempt : Nat) (lane : SeqLane) (slot : Nat)
  | nonce (statement : PendingStatement) (attempt : Nat) (reservation : ReservedSeq)
  | retry (statement : PendingStatement) (attempt : Nat) (lane : SeqLane) (failure : StoreError)
  | signStatement (reservation : ReservedSeq)
  | trackReserved (reservation : ReservedSeq)
  | releaseSeq (reservation : ReservedSeq)
  | finish (slot : Nat)
  | burnSeq (reservation : Nat)
  | applyLaneRotation (reservation : ReservedSeq) (rotation : LaneRotation)

/-- The answers a section may ask for. -/
structure Answer where
  acquired : Except PickError Lane
  ended : Bool
  opened : Bool
  reserved : Except StoreError Nat
  accepted : Except StoreError Unit
  nonce : Option Bytes
  signed : Bool
  released : Except StoreError Unit

/--
What a run leaves in its history.  A call is `entered` when its hook takes the
plugin's lock; `cleared` is the moment at which a session's query state goes.
-/
inductive Event where
  | called (session : Session) (hook : Hook)
  | entered (session : Session) (hook : Hook)
  | picked (session : Session) (slot : Nat)
  | reserved (session : Session) (reservation : Nat) (store : Store) (seq : Nat)
  | nonceFailed (session : Session) (reservation : Nat)
  | signFailed (session : Session) (reservation : Nat)
  | tracked (session : Session) (reservation : Nat) (statementID : Bytes)
  | cleared (session : Session)
  | abandoned (session : Session) (store : Nat)
  | released (session : Session) (reservation : Nat) (store : Store) (seq : Nat)
  | releaseFailed (session : Session) (reservation : Nat) (failure : StoreError)
  | dropped (session : Session) (reservation : Nat)
  | sequenced (session : Session) (reservation : Nat)
  | burned (session : Session) (reservation : Nat)
  | freed (session : Session) (slot : Nat)
  deriving DecidableEq

abbrev Result := Outcome Shared Section Event

/-! ## Exception texts -/

def seqUnspentSuffix : Bytes := ascii " [client_seq unspent]"

/-- The message says that the seq was not spent. -/
def hasSeqUnspentSuffix (message : Bytes) : Bool :=
  seqUnspentSuffix.isSuffixOf (trimUnicodeSpace message)

def trimSuffix (text suffix : Bytes) : Bytes :=
  if suffix.isSuffixOf text then text.take (text.length - suffix.length) else text

def admissionCodeGapBudgetExceeded : Bytes := ascii "ADMISSION_CODE_GAP_BUDGET_EXCEEDED"

def admissionCodeLaneBudgetExceeded : Bytes := ascii "ADMISSION_CODE_LANE_BUDGET_EXCEEDED"

def errClientLanesNotEnabled : Bytes :=
  ascii "storage_integrity: client lanes are not enabled on this network"

/-- What a refusal says about the lane. -/
def laneRotationFor (message statementID : Bytes) : LaneRotation :=
  let trimmed := trimUnicodeSpace message
  let text :=
    if hasSeqUnspentSuffix trimmed then
      trimUnicodeSpace (trimSuffix trimmed seqUnspentSuffix)
    else
      trimmed
  let rejected := ascii "statement " ++ statementID ++ ascii " rejected by the arbiter: "
  if statementID ≠ [] ∧ (rejected ++ admissionCodeGapBudgetExceeded).isSuffixOf text then
    .gapBudget
  else if statementID ≠ [] ∧ (rejected ++ admissionCodeLaneBudgetExceeded).isSuffixOf text then
    .laneBudget
  else if errClientLanesNotEnabled <:+: message then
    .lanesDisabled
  else
    .none

/-! ## Lane stores -/

variable (config : Config)

/-- The legacy counter of a network, opened at its first use. -/
def seqFor (networkID : Network) (opened : Bool)
    (shared : Shared) : Except StoreError (Store × Shared) :=
  if config.seq then
    .ok (.seq, shared)
  else if shared.seqClosed then
    .error .closed
  else
    match shared.seqs networkID with
    | some counter => .ok (.counter counter, shared)
    | none =>
      if opened then
        .ok (.counter shared.nextCounter, { shared with
            seqs := update shared.seqs networkID (some shared.nextCounter)
            nextCounter := shared.nextCounter + 1 })
      else
        .error .other

/-- A client lane is its own store, the legacy lane looks its counter up. -/
def storeFor (lane : SeqLane) (networkID : Network) (opened : Bool)
    (shared : Shared) : Except StoreError (Store × Shared) :=
  match lane with
  | .client held => .ok (.client held.store, shared)
  | .legacy => seqFor config networkID opened shared

/-- Whether the lane is a store that was abandoned. -/
def isRetired (lane : SeqLane) (shared : Shared) : Bool :=
  match lane with
  | .client held => shared.retired held.store
  | .legacy => false

variable (session : Session)

def setReserved (reservation : Option ReservedSeq) (shared : Shared) : Shared :=
  { shared with
    reserved := update shared.reserved session reservation }

def setPending (statement : Option PendingStatement) (shared : Shared) : Shared :=
  { shared with
    pending := update shared.pending session statement }

def setSelector (networkID : Network) (selector : Selector) (shared : Shared) : Shared :=
  { shared with
    selectors := update shared.selectors networkID (some selector) }

/-! ## Claiming a statement and its input -/

variable (queryID : Bytes)

/-- Claim the statements of this plugin. -/
def onQuery (classified : Classified) (shared : Shared) : Result :=
  let noteState (stateful : Bool) : Shared :=
    if stateful then
      { shared with
        statefulNext := update shared.statefulNext session (some queryID) }
    else
      shared
  match classified with
  | .use db =>
    ⟨{ shared with
        useNext := update shared.useNext session (some (queryID, db)) },
      [], []⟩
  | .passed stateful => ⟨noteState stateful, [], []⟩
  | .claimed stateful statement =>
    ⟨noteState stateful, [.claim { statement with queryID := queryID, payload := [] }], []⟩

variable (statement : PendingStatement)

/-- At most one statement is pending on a session. -/
def claim (shared : Shared) : Result :=
  match shared.pending session with
  | some _ => ⟨shared, [], []⟩
  | none => ⟨setPending session (some statement) shared, [], []⟩

/-- Collect the payload, up to its limit. -/
def onClientDataStrict (queryID raw : Bytes) (shared : Shared) : Result :=
  match shared.pending session with
  | none => ⟨shared, [], []⟩
  | some statement =>
    if raw = [] ∨ statement.queryID ≠ queryID then
      ⟨shared, [], []⟩
    else if config.maxPayload < statement.payload.length + raw.length then
      ⟨setPending session none shared, [], []⟩
    else
      ⟨setPending session (some { statement with payload := statement.payload ++ raw }) shared,
        [], []⟩

/-- Whether the packets fit the budget, taken one after the other. -/
def packetsFit (budget : Nat) : List Bytes → Bool
  | [] => true
  | packet :: packets => packet.length ≤ budget && packetsFit (budget - packet.length) packets

variable (statement : PendingStatement)

/-- The payload to sign, unless a check of the packets refuses it. -/
def payloadOf : Option SynthesizedInsert → Option Bytes
  | none => some statement.payload
  | some plan =>
    if plan.upstreamRevision = some statement.clientRevision ∧
        packetsFit config.maxPayload plan.packets ∧
        plan.packets.flatten.length = plan.payloadBytes then
      some plan.packets.flatten
    else
      none

/-- The first section of the strict end of input takes the statement over. -/
def onQueryInputCompleteStrict (synthesized : Option SynthesizedInsert) (shared : Shared) :
    Result :=
  match shared.pending session with
  | none => ⟨shared, [], []⟩
  | some statement =>
    if statement.queryID ≠ queryID then
      ⟨shared, [], []⟩
    else
      match payloadOf config statement synthesized with
      | none | some [] => ⟨setPending session none shared, [], []⟩
      | some (_ :: _) => ⟨setPending session none shared, [.selectorFor statement], []⟩

/-! ## Reserving a seq -/

/-- A selector for the network. -/
def selectorFor (shared : Shared) : Result :=
  if shared.seqClosed then
    ⟨shared, [], []⟩
  else
    match shared.selectors statement.networkID with
    | some _ => ⟨shared, [.pick statement 0], []⟩
    | none =>
      ⟨setSelector statement.networkID (newLaneSelector config.mode config.maxInflight) shared,
        [.pick statement 0], []⟩

variable (attempt : Nat)

/-- One round of `pick`; a full lane keeps the call waiting. -/
def pick (answer : Answer) (shared : Shared) : Result :=
  match shared.selectors statement.networkID with
  | none => ⟨shared, [], []⟩
  | some selector =>
    let acquired := answer.acquired.map fun lane => ⟨shared.nextStore, lane⟩
    let (selector, round) := selector.pick statement.lanesEnabled acquired answer.ended
    let shared := { setSelector statement.networkID selector shared with
        nextStore := shared.nextStore + 1 }
    match round with
    | .picked lane =>
      ⟨{ shared with
          slots := ⟨shared.nextSlot, session, statement.networkID, lane.lane⟩ :: shared.slots
          nextSlot := shared.nextSlot + 1 },
        [.reserveStatementID statement attempt lane shared.nextSlot],
        [.picked session shared.nextSlot]⟩
    | .refused _ => ⟨shared, [], []⟩
    | .waits => ⟨shared, [.pick statement attempt], []⟩

/-- A failed reservation frees the slot before it is tried again. -/
def failReserve (lane : SeqLane) (slot : Nat) (failure : StoreError) (shared : Shared) : Result :=
  ⟨shared, [.finish slot, .retry statement attempt lane failure], []⟩

variable (reservation : ReservedSeq)

/-- The seq is taken; `next` says how the call goes on. -/
def issue (store : Store) (next : ReservedSeq → Section) (shared : Shared) : Result :=
  let reservation := { reservation with id := shared.nextReservation }
  ⟨{ shared with nextReservation := shared.nextReservation + 1 }, [next reservation],
    [.reserved session reservation.id store reservation.seq]⟩

/-- Reserve the seq of a statement. -/
def reserveStatementID (lane : SeqLane) (slot : Nat) (answer : Answer) (shared : Shared) : Result :=
  let reservation (statementID : Bytes) (seq : Nat) : ReservedSeq :=
    ⟨0, slot, statementID, lane, seq, statement.networkID, statement.database, false⟩
  match ownLanedStatementID statement.queryID config.account lane.lane with
  | .error _ => failReserve statement attempt lane slot .other shared
  | .ok supplied =>
    match storeFor config lane statement.networkID answer.opened shared with
    | .error failure => failReserve statement attempt lane slot failure shared
    | .ok (store, shared) =>
      match supplied with
      | some id =>
        match answer.accepted with
        | .error failure => failReserve statement attempt lane slot failure shared
        | .ok () => issue session (reservation id.flat id.seq) store .signStatement shared
      | none =>
        match answer.reserved with
        | .error failure => failReserve statement attempt lane slot failure shared
        | .ok seq => issue session (reservation [] seq) store (.nonce statement attempt) shared

/-- Without a nonce there is no statement id, so nothing can have left. -/
def nonce (reservation : ReservedSeq) (answer : Answer) (shared : Shared) : Result :=
  match answer.nonce with
  | none =>
    ⟨shared, [.releaseSeq reservation, .finish reservation.slot,
        .retry statement attempt reservation.lane .other],
      [.nonceFailed session reservation.id]⟩
  | some entropy =>
    let id : StatementID :=
      ⟨config.account, reservation.lane.lane, reservation.seq, hexEncode entropy⟩
    ⟨shared, [.signStatement { reservation with statementID := id.flat }], []⟩

/-- A lane that was rotated away under the call is tried once more. -/
def retry (lane : SeqLane) (failure : StoreError) (shared : Shared) : Result :=
  if attempt = 0 ∧ isRetired lane shared ∧ failure = .closed then
    ⟨shared, [.pick statement (attempt + 1)], []⟩
  else
    ⟨shared, [], []⟩

/-- Sign, or give the seq back. -/
def signStatement (answer : Answer) (shared : Shared) : Result :=
  if answer.signed then
    ⟨shared, [.trackReserved reservation], []⟩
  else
    ⟨shared, [.releaseSeq reservation, .finish reservation.slot],
      [.signFailed session reservation.id]⟩

/-- What is left to do for a reservation that the session forgets. -/
def settleDropped : Option ReservedSeq → List Section
  | none => []
  | some reservation =>
    .finish reservation.slot ::
      if reservation.resolved then [] else [.burnSeq reservation.id]

/-- The outcome of a reservation is unknown when it is recorded. -/
def trackReserved (shared : Shared) : Result :=
  ⟨setReserved session (some { reservation with resolved := false }) shared,
    settleDropped (shared.reserved session),
    [.tracked session reservation.id reservation.statementID]⟩

/-! ## Outcomes -/

/--
Return an unspent seq to its lane.  A failure leaves it burned, except when its
lane was abandoned in the meantime and the store answers that it is closed.
-/
def releaseSeq (answer : Answer) (shared : Shared) : Result :=
  let failed (failure : StoreError) (shared : Shared) : Result :=
    if isRetired reservation.lane shared ∧ failure = .closed then
      ⟨shared, [],
        [.dropped session reservation.id, .releaseFailed session reservation.id failure]⟩
    else
      ⟨shared, [],
        [.burned session reservation.id, .releaseFailed session reservation.id failure]⟩
  match storeFor config reservation.lane reservation.networkID answer.opened shared with
  | .error failure => failed failure shared
  | .ok (store, shared) =>
    match answer.released with
    | .error failure => failed failure shared
    | .ok () => ⟨shared, [], [.released session reservation.id store reservation.seq]⟩

/-- The slot is gone and its selector counts one statement less. -/
def leaveSlot (entry : Slot) (shared : Shared) : Shared :=
  let shared := { shared with slots := shared.slots.filter (·.id ≠ entry.id) }
  match shared.selectors entry.networkID with
  | none => shared
  | some selector => setSelector entry.networkID (selector.leave entry.lane) shared

/-- The function that `pick` returned frees its slot at the first call. -/
def finish (slot : Nat) (shared : Shared) : Result :=
  match shared.slots.find? (·.id = slot) with
  | none => ⟨shared, [], []⟩
  | some entry => ⟨leaveSlot entry shared, [], [.freed entry.session slot]⟩

/-- Mark the session's reservation as released or sequenced. -/
def resolve (shared : Shared) : Shared :=
  setReserved session (some { reservation with resolved := true }) shared

/-- An unspent seq goes back to its lane. -/
def onException (message : Bytes) (shared : Shared) : Result :=
  match shared.reserved session with
  | none => ⟨shared, [], []⟩
  | some reservation =>
    let marked := hasSeqUnspentSuffix message
    let rotation := laneRotationFor message reservation.statementID
    if ¬ marked ∧ rotation = .none then
      ⟨shared, [], []⟩
    else if marked ∧ ¬ reservation.resolved then
      ⟨resolve session reservation shared, [.releaseSeq reservation, .finish reservation.slot,
          .applyLaneRotation reservation rotation],
        []⟩
    else
      ⟨shared, [.applyLaneRotation reservation rotation], []⟩

/-- A lane that ran out of its budget is left; the cached info is not kept. -/
def applyLaneRotation (rotation : LaneRotation) (shared : Shared) : Result :=
  let lane := reservation.lane.lane
  match shared.selectors reservation.networkID with
  | none => ⟨shared, [], []⟩
  | some selector =>
    if lane = [] then
      ⟨shared, [], []⟩
    else
      match rotation with
      | .gapBudget =>
        let (selector, abandoned) := selector.rotate lane
        let shared := setSelector reservation.networkID selector shared
        match abandoned with
        | none => ⟨shared, [], []⟩
        | some held =>
          ⟨{ shared with
              retired := update shared.retired held.store true },
            [], [.abandoned session held.store]⟩
      | .laneBudget =>
        ⟨setSelector reservation.networkID (selector.pinLegacy admissionCodeLaneBudgetExceeded)
            shared,
          [], []⟩
      | .lanesDisabled | .none => ⟨shared, [], []⟩

/-- Whether the session's reservation is unresolved and has this id. -/
def ReservedSeq.isOpenFor (reservation : ReservedSeq) (queryID : Bytes) : Bool :=
  !reservation.resolved && reservation.statementID = queryID

/-- Drop the buffer and the candidate USE of exactly this query. -/
def forgetQuery (shared : Shared) : Shared :=
  let shared :=
    if (shared.pending session).any (·.queryID = queryID) then
      setPending session none shared
    else
      shared
  if (shared.useNext session).any (·.1 = queryID) then
    { shared with
      useNext := update shared.useNext session none }
  else
    shared

/-- The seq of an unsent query goes back. -/
def onQueryAbort (upstreamQueryUnsent : Bool) (shared : Shared) : Result :=
  let shared := forgetQuery session queryID shared
  match shared.reserved session with
  | none => ⟨shared, [], []⟩
  | some reservation =>
    if upstreamQueryUnsent ∧ reservation.isOpenFor queryID then
      ⟨resolve session reservation shared, [.releaseSeq reservation, .finish reservation.slot], []⟩
    else
      ⟨shared, [], []⟩

/-- The state that a successful statement leaves on its session. -/
def noteSuccess (shared : Shared) : Shared :=
  let shared :=
    if shared.statefulNext session = some queryID then
      { shared with
        nonSwitchable := update shared.nonSwitchable session true
        statefulNext := update shared.statefulNext session none }
    else
      shared
  match shared.useNext session with
  | none => shared
  | some (useID, db) =>
    if useID = queryID then
      { shared with
        useDB := update shared.useDB session db
        useNext := update shared.useNext session none }
    else
      shared

/-- The seq is spent. -/
def onQuerySuccess (shared : Shared) : Result :=
  let shared := noteSuccess session queryID shared
  match shared.reserved session with
  | none => ⟨shared, [], []⟩
  | some reservation =>
    if reservation.isOpenFor queryID then
      ⟨resolve session reservation shared, [.finish reservation.slot],
        [.sequenced session reservation.id]⟩
    else
      ⟨shared, [], []⟩

/-- A reservation still open is settled. -/
def onQueryComplete (shared : Shared) : Result :=
  let shared := { shared with
      useNext := update shared.useNext session none
      statefulNext := update shared.statefulNext session none }
  ⟨setReserved session none shared, settleDropped (shared.reserved session),
    [.cleared session]⟩

/-- The session's state is dropped. -/
def onClose (shared : Shared) : Result :=
  let shared := { setPending session none shared with
      useDB := update shared.useDB session []
      useNext := update shared.useNext session none
      nonSwitchable := update shared.nonSwitchable session false
      statefulNext := update shared.statefulNext session none }
  ⟨setReserved session none shared, settleDropped (shared.reserved session),
    [.cleared session]⟩

/-- `Close` of the plugin: every counter and every lane is given back. -/
def closePlugin (shared : Shared) : Result := ⟨{ shared with
    seqClosed := true
    selectors := fun networkID => (shared.selectors networkID).map Selector.close },
    [], []⟩

/-! ## The machine -/

/-- The first section of a hook. -/
def execHook (shared : Shared) : Hook → Result
  | .onQuery queryID classified => onQuery session queryID classified shared
  | .onClientDataStrict queryID raw => onClientDataStrict config session queryID raw shared
  | .onQueryInputCompleteStrict queryID synthesized =>
    onQueryInputCompleteStrict config session queryID synthesized shared
  | .onException message => onException session message shared
  | .onQueryAbort queryID upstreamQueryUnsent =>
    onQueryAbort session queryID upstreamQueryUnsent shared
  | .onQuerySuccess queryID => onQuerySuccess session queryID shared
  | .onQueryComplete => onQueryComplete session shared
  | .onClose => onClose session shared
  | .closePlugin => closePlugin shared

/-- One section of a call, as the source runs it. -/
def perform (answer : Answer) (session : Session) (shared : Shared) : Section → Result
  | .hook hook => execHook config session shared hook
  | .claim statement => claim session statement shared
  | .selectorFor statement => selectorFor config statement shared
  | .pick statement attempt => pick session statement attempt answer shared
  | .reserveStatementID statement attempt lane slot =>
    reserveStatementID config session statement attempt lane slot answer shared
  | .nonce statement attempt reservation =>
    nonce config session statement attempt reservation answer shared
  | .retry statement attempt lane failure => retry statement attempt lane failure shared
  | .signStatement reservation => signStatement session reservation answer shared
  | .trackReserved reservation => trackReserved session reservation shared
  | .releaseSeq reservation => releaseSeq config session reservation answer shared
  | .finish slot => finish slot shared
  | .burnSeq reservation => ⟨shared, [], [.burned session reservation]⟩
  | .applyLaneRotation reservation rotation => applyLaneRotation session reservation rotation shared

/-- A history with the note that a section is the first one of its hook. -/
def Section.note (session : Session) (history : List Event) : Section → List Event
  | .hook running => .entered session running :: history
  | _ => history

/-- Run a section; a hook is noted as entered before anything it does. -/
def exec (answer : Answer) (session : Session) (shared : Shared) (part : Section) : Result :=
  let result := perform config answer session shared part
  { result with events := result.events ++ part.note session [] }

/-- Hooks of any sessions, side by side, in any order. -/
def machine (config : Config) : Machine Shared Session Hook Section Answer Event where
  start := fun _ hook => .hook hook
  called := .called
  exec := fun _ answer session part shared => exec config answer session shared part
  restart := fun _ => none

end HouseGate.SiStatement
