import Mathlib.Data.List.AList
import Mathlib.Data.List.Lex
import HouseGate.IssueLedger
import HouseGate.LanePool

namespace HouseGate.LanePool

open JsonDocument StableStorage IssueLedger SeqCounter Ledger

/-!
# Processes that share one lanes directory

Every process opens one pool on the directory.  `Acquire` runs in small steps:
the listing, then for every lane its lock and its file, then the minting
attempts.  Steps of different processes interleave freely; within a process
`acquireMu` lets one `Acquire` or `exclude` run at a time.  A lane lock is
exclusive and is dropped by a crash.

Store operations hold the store's mutex and touch only the file of the locked
lane, so each is one step that carries the outcome of its write.  A rotation is
three steps: `Abandon`, and after a failure `exclude` and `Close`.
-/

/-- Why a process was given a lane. -/
inductive AcquireReason where
  | reused
  | newProcess
  | lostState

/-- What the pool did, as its users see it. -/
inductive Event where
  | issued (lane : Lane) (seq handle : Nat)
  | released (lane : Lane) (seq handle : Nat)
  | handedOut (lane : Lane) (process handle : Nat) (reason : AcquireReason)
  | abandoned (lane : Lane)
  | abandonFailed (process : Nat) (lane : Lane)

/-- Who holds the lock of a lane's directory. -/
inductive LockOwner where
  | store (handle : Nat)
  | acquirer (process : Nat)

/-- Where a running `Acquire` stands; `found` counts the listed lane files. -/
inductive AcquirePhase where
  | scanning (pending : List Lane) (found : Nat)
  | checking (lane : Lane) (pending : List Lane) (found : Nat)
  | minting (attempt found : Nat)
  | probing (lane : Lane) (attempt found : Nat)
  | writing (lane : Lane) (found : Nat)

/-- The lane whose lock a running `Acquire` holds. -/
def AcquirePhase.locked : AcquirePhase → Option Lane
  | .scanning _ _ => none
  | .checking lane _ _ => some lane
  | .minting _ _ => none
  | .probing lane _ _ => some lane
  | .writing lane _ => some lane

/-- The listed lanes that a running `Acquire` may still hand out. -/
def AcquirePhase.listed : AcquirePhase → List Lane
  | .scanning pending _ => pending
  | .checking lane pending _ => lane :: pending
  | _ => []

/-- A lane a running `Acquire` minted and has not given back. -/
def AcquirePhase.minted : AcquirePhase → Option Lane
  | .probing lane _ _ => some lane
  | .writing lane _ => some lane
  | _ => none

/-- A lane whose file a running `Acquire` found absent. -/
def AcquirePhase.absent : AcquirePhase → Option Lane
  | .writing lane _ => some lane
  | _ => none

/-- A process: the lanes it leaves out and its acquisition. -/
structure Process where
  excluded : List Lane
  acquiring : Option AcquirePhase

/-- How far a rotation got whose `Abandon` failed. -/
inductive Rotation where
  | idle
  | abandonFailed
  | excluded
  deriving DecidableEq

/-- A lane that a process has open. -/
structure Entry where
  process : Nat
  store : LanedStore
  rotation : Rotation

/-- The directory, its locks, and all processes. -/
structure World where
  directory : AList (fun _ : Lane => Json)
  locks : Lane → Option LockOwner
  processes : Nat → Option Process
  started : Nat
  entries : Nat → Option Entry
  acquired : Nat
  history : List Event

/-- What the environment answers to one step of `Acquire`. -/
structure AcquireInput where
  ioFails : Bool
  random : Vector UInt8 8
  write : WriteOutcome

/-- What processes may do, and how they may fail. -/
inductive Action where
  | start
  | acquire (process : Nat) (ioFails : Bool)
  | acquireStep (process : Nat) (input : AcquireInput)
  | reserve (handle : Nat) (write : WriteOutcome)
  | reserveSupplied (handle : Nat) (seq : UInt64) (write : WriteOutcome)
  | release (handle : Nat) (seq : UInt64) (write : WriteOutcome)
  | rotateAbandon (handle : Nat) (write : WriteOutcome)
  | rotateExclude (handle : Nat)
  | rotateClose (handle : Nat)
  | close (handle : Nat)
  | crash (process : Nat)

def initial : World where
  directory := ∅
  locks := fun _ => none
  processes := fun _ => none
  started := 0
  entries := fun _ => none
  acquired := 0
  history := []

def mintAttempts : Nat := 8

namespace World

variable (world : World)

def file (lane : Lane) : Option Json := world.directory.lookup lane

/-- A write leaves a file or, failing before its rename, none. -/
def setFile (lane : Lane) (contents : Option Json) : World := { world with
    directory :=
      match contents with
      | none => world.directory
      | some document => world.directory.insert lane document }

def setLock (lane : Lane) (owner : Option LockOwner) : World := { world with
    locks := fun other =>
      if other = lane then owner else world.locks other }

def setProcess (id : Nat) (process : Option Process) : World := { world with
    processes := fun other =>
      if other = id then process else world.processes other }

variable (handle : Nat)

def setEntry (entry : Option Entry) : World := { world with
    entries := fun other =>
      if other = handle then entry else world.entries other }

def record (events : List Event) : World := { world with history := events ++ world.history }

def setPhase (id : Nat) (process : Process) (phase : Option AcquirePhase) : World :=
  world.setProcess id (some { process with acquiring := phase })

/-- The end of a successful `Acquire`: the lock now belongs to the store. -/
def handOut (id : Nat) (lane : Lane) (state : LaneFile) (reason : AcquireReason) : World :=
  let handle := world.acquired
  let store : LanedStore := ⟨lane, state, false, false⟩
  { ((world.setLock lane (some (.store handle))).setEntry handle (some ⟨id, store, .idle⟩)).record
      [.handedOut lane id handle reason] with
    acquired := handle + 1 }

/-- The listing of `Acquire`: lane files in order, without excluded ones. -/
def listing (process : Process) : AcquirePhase :=
  let found := world.directory.keys.filter validClientLane
  .scanning ((found.filter (fun lane => !process.excluded.contains lane)).mergeSort
      (fun first second => decide (first ≤ second)))
    found.length

/-- One step of a running `Acquire`. -/
def acquireStep (id : Nat) (process : Process) (input : AcquireInput) : AcquirePhase → World
  | .scanning [] found => world.setPhase id process (some (.minting 0 found))
  | .scanning (lane :: pending) found =>
    if input.ioFails then
      world.setPhase id process none
    else if (world.locks lane).isSome then
      world.setPhase id process (some (.scanning pending found))
    else
      (world.setLock lane (some (.acquirer id))).setPhase id process
        (some (.checking lane pending found))
  | .checking lane pending found =>
    let document := if input.ioFails then none else world.file lane
    let skip := (world.setPhase id process (some (.scanning pending found))).setLock lane none
    match readLaneFile document lane with
    | .error _ => skip
    | .ok state =>
      if state.abandoned then
        skip
      else
        (world.setPhase id process none).handOut id lane state .reused
  | .minting attempt found =>
    if attempt = mintAttempts ∨ input.ioFails then
      world.setPhase id process none
    else
      let lane := hexEncode input.random.toList
      if (world.locks lane).isSome then
        world.setPhase id process (some (.minting (attempt + 1) found))
      else
        (world.setLock lane (some (.acquirer id))).setPhase id process
          (some (.probing lane attempt found))
  | .probing lane attempt found =>
    -- `Lstat` under the lock: a file means that the id is taken.
    if input.ioFails then
      (world.setPhase id process none).setLock lane none
    else if (world.file lane).isSome then
      (world.setPhase id process (some (.minting (attempt + 1) found))).setLock lane none
    else
      world.setPhase id process (some (.writing lane found))
  | .writing lane found =>
    let state := mintedFile lane
    let written := (world.setPhase id process none).setFile lane
        (input.write.apply (world.file lane) (some (laneDocument state)))
    if input.write.succeeded then
      written.handOut id lane state (if found = 0 then .lostState else .newProcess)
    else
      written.setLock lane none

/-- A store and the file of its lane after an operation. -/
def keep (lane : Lane) (disk : Option Json) (entry : Entry) (events : List Event) : World :=
  ((world.setFile lane disk).setEntry handle (some entry)).record events

/-- Publish a store operation: its memory, its file and its events. -/
def publish (handle : Nat) (entry : Entry) (outcome : StoreOutcome α)
    (events : List Event) : World :=
  world.keep handle entry.store.lane outcome.disk { entry with store := outcome.memory } events

def issueEvents (lane : Lane) (handle : Nat) (seqOf : α → Nat) : Except LaneError α → List Event
  | .ok value => [.issued lane (seqOf value) handle]
  | .error _ => []

def releaseEvents (lane : Lane) (handle seq : Nat) (write : WriteOutcome)
    (answer : Except LaneError Bool) : List Event :=
  if releaseVisible write answer then [.released lane seq handle] else []

/-- `Close` of an open store. -/
def closeStore (entry : Entry) (retired : Bool) : World :=
  (world.setLock entry.store.lane none).setEntry handle (some { entry with
      store := { entry.store with
          closed := true
          retired := entry.store.retired || retired } })

/-- The first step of `rotate`, on the selector's current store. -/
def rotateAbandon (entry : Entry) (write : WriteOutcome) : World :=
  let lane := entry.store.lane
  let outcome := entry.store.abandon write (world.file lane)
  match outcome.answer with
  | .ok () => (world.publish handle entry outcome [.abandoned lane]).setLock lane none
  | .error _ =>
    world.publish handle { entry with rotation := .abandonFailed }
      outcome [.abandonFailed entry.process lane]

/-- A process dies: its memory is gone and its locks are dropped. -/
def crash (id : Nat) : World := { world with
    processes := fun other =>
      if other = id then none else world.processes other
    entries := fun handle => (world.entries handle).filter (fun entry => entry.process != id)
    locks := fun lane =>
      (world.locks lane).filter (fun owner =>
        match owner with
        | .acquirer process => process != id
        | .store handle => (world.entries handle).any (fun entry => entry.process != id)) }

def step (world : World) : Action → World
  | .start =>
    { world.setProcess world.started (some ⟨[], none⟩) with
      started := world.started + 1 }
  | .acquire id ioFails =>
    match world.processes id with
    | some ⟨excluded, none⟩ =>
      if ioFails then
        world
      else
        world.setPhase id ⟨excluded, none⟩ (some (world.listing ⟨excluded, none⟩))
    | _ => world
  | .acquireStep id input =>
    match world.processes id with
    | some ⟨excluded, some phase⟩ => world.acquireStep id ⟨excluded, some phase⟩ input phase
    | _ => world
  | .reserve handle write =>
    match world.entries handle with
    | none => world
    | some entry =>
      let lane := entry.store.lane
      let outcome := entry.store.reserve write (world.file lane)
      world.publish handle entry outcome (issueEvents lane handle id outcome.answer)
  | .reserveSupplied handle seq write =>
    match world.entries handle with
    | none => world
    | some entry =>
      let lane := entry.store.lane
      let outcome := entry.store.reserveSupplied write seq.toNat (world.file lane)
      world.publish handle entry outcome
        (issueEvents lane handle (fun _ => seq.toNat) outcome.answer)
  | .release handle seq write =>
    match world.entries handle with
    | none => world
    | some entry =>
      let lane := entry.store.lane
      let outcome := entry.store.release write seq.toNat (world.file lane)
      world.publish handle entry outcome (releaseEvents lane handle seq.toNat write outcome.answer)
  | .rotateAbandon handle write =>
    match world.entries handle with
    | none => world
    | some entry =>
      if entry.store.closed ∨ entry.rotation ≠ .idle then
        world
      else
        world.rotateAbandon handle entry write
  | .rotateExclude handle =>
    match world.entries handle with
    | none => world
    | some entry =>
      match entry.rotation, world.processes entry.process with
      | .abandonFailed, some ⟨excluded, none⟩ =>
        (world.setProcess entry.process (some ⟨entry.store.lane :: excluded, none⟩)).setEntry
            handle (some { entry with rotation := .excluded })
      | _, _ => world
  | .rotateClose handle =>
    match world.entries handle with
    | none => world
    | some entry =>
      if entry.store.closed ∨ entry.rotation ≠ .excluded then
        world
      else
        world.closeStore handle entry true
  | .close handle =>
    match world.entries handle with
    | none => world
    | some entry =>
      -- A store under rotation is no longer the selector's current one.
      if entry.store.closed ∨ entry.rotation ≠ .idle then
        world
      else
        world.closeStore handle entry false
  | .crash id => world.crash id

def run (actions : List Action) : World := actions.foldl step world

end World

/-! ## Histories -/

def Event.issuedPair : Event → Option (Lane × Nat)
  | .issued lane seq _ => some (lane, seq)
  | _ => none

def Event.releasedPair : Event → Option (Lane × Nat)
  | .released lane seq _ => some (lane, seq)
  | _ => none

def ledger : Ledger Event (Lane × Nat) where
  issued := Event.issuedPair
  released := Event.releasedPair
  exclusive := by
    intro event pair issue
    cases event with
    | issued lane seq handle => rfl
    | _ => cases issue

/-- The sequences of a lane that are issued and not released. -/
def held (history : List Event) (lane : Lane) (seq : Nat) : Prop :=
  ledger.Outstanding history (lane, seq)

variable {history : List Event} {lane : Lane}
  {other : Lane} {seq : Nat}

theorem held_issued {query handle : Nat} : held (.issued lane seq handle :: history) other query ↔
    (other = lane ∧ query = seq) ∨ held history other query := by
  have unfolded : ledger.Outstanding (.issued lane seq handle :: history) (other, query) ↔
      (other, query) = (lane, seq) ∨ ledger.Outstanding history (other, query) :=
    outstanding_cons_issued rfl
  simpa [held] using unfolded

theorem held_released {query handle : Nat} :
    held (.released lane seq handle :: history) other query ↔
      ¬(other = lane ∧ query = seq) ∧ held history other query := by
  have unfolded : ledger.Outstanding (.released lane seq handle :: history) (other, query) ↔
      (other, query) ≠ (lane, seq) ∧ ledger.Outstanding history (other, query) :=
    outstanding_cons_released rfl
  simpa [held] using unfolded

/-- Events that are neither an issue nor a release change nothing held. -/
theorem held_other {event : Event} (notIssued : event.issuedPair = none)
    (notReleased : event.releasedPair = none) :
    held (event :: history) = held history := by
  funext lane seq
  exact propext (outstanding_cons_other notIssued notReleased)

/-- A lane is handed out only while it may still be used. -/
def HandedOutSafely : List Event → Prop
  | [] => True
  | .handedOut lane process _ _ :: earlier =>
    (Event.abandoned lane ∉ earlier ∧
      Event.abandonFailed process lane ∉ earlier) ∧ HandedOutSafely earlier
  | _ :: earlier => HandedOutSafely earlier

/-- The store that a pair of lane and seq was last issued to. -/
def lastIssuer
    (lane : Lane)
    (seq : Nat) :
    List Event → Option Nat
  | [] => none
  | .issued otherLane otherSeq handle :: earlier =>
    if otherLane = lane ∧ otherSeq = seq then some handle else lastIssuer lane seq earlier
  | _ :: earlier => lastIssuer lane seq earlier

/-- Every release came from the store that its pair was last issued to. -/
def ReleasedByIssuer : List Event → Prop
  | [] => True
  | .released lane seq handle :: earlier =>
    lastIssuer lane seq earlier = some handle ∧ ReleasedByIssuer earlier
  | _ :: earlier => ReleasedByIssuer earlier

/--
The discipline that `Release` asks of its callers: a store is called only with
a seq that it reserved itself.  A later holder of the lane reserved nothing of
what a store before it left out.
-/
def ReleasesOwn (actions : List Action) : Prop :=
  ∀ before handle seq write after entry,
    actions = before ++ .release handle seq write :: after →
    (initial.run before).entries handle = some entry →
    lastIssuer entry.store.lane seq.toNat (initial.run before).history = some handle

end HouseGate.LanePool
