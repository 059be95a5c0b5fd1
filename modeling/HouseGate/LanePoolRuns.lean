import HouseGate.LanePoolInvariant

namespace HouseGate.LanePool

open DecimalText JsonDocument AscendingList StableStorage IssueLedger SeqCounter WriteOutcome World
open AcquirePhase

/-!
# Runs of processes over one lanes directory

Every step of `Acquire` and every other action keeps the invariant, hence so
does every run.  The final theorem reads the guarantees off it.
-/

variable {pending : List Lane} {found : Nat} {phase : AcquirePhase} {next : Option AcquirePhase}

namespace Invariant

variable {world : World} {id : Nat} {process : Process} {lane : Lane}

/-! ## Every step of `Acquire` -/

theorem phaseOk_scanning (listed : ∀ other ∈ pending, other ∉ process.excluded) :
    PhaseOk world id process (.scanning pending found) where
  locked _ impossible := by cases impossible
  minted _ impossible := by cases impossible
  absent _ impossible := by cases impossible
  listed := listed

theorem phaseOk_minting {attempt found : Nat} :
    PhaseOk world id process (.minting attempt found) where
  locked _ impossible := by cases impossible
  minted _ impossible := by cases impossible
  absent _ impossible := by cases impossible
  listed _ impossible := by cases impossible

variable (invariant : Invariant world)

include invariant

theorem leave (present : world.processes id = some process) :
    Invariant (world.setPhase id process none) :=
  invariant.setPhase present fun _ impossible => by cases impossible

theorem enter {next : AcquirePhase} (present : world.processes id = some process)
    (nextOk : PhaseOk world id process next) :
    Invariant (world.setPhase id process (some next)) := by
  apply invariant.setPhase present
  intro later isNext
  cases isNext
  exact nextOk

variable (acquiring : world.Acquiring id process phase)

include acquiring

/-- Leaving a phase that held a lane's lock for one that does not. -/
theorem leftLocked_setPhase (locked : lane ∈ phase.locked)
    (unlocked : ∀ later ∈ next, lane ∉ later.locked) :
    (world.setPhase id process next).LeftLocked id lane := by
  refine ⟨(invariant.phases acquiring).locked lane locked, ?_⟩
  intro otherProcess later now
  obtain ⟨here, running⟩ := now
  simp only [World.setPhase, World.setProcess, if_true, Option.some.injEq] at here
  subst here
  exact unlocked later running

/-- A lane that is skipped or given up. -/
theorem skip
    (locked : lane ∈ phase.locked)
    (unlocked : ∀ later ∈ next, lane ∉ later.locked)
    (nextOk : ∀ later ∈ next, PhaseOk world id process later) :
    Invariant ((world.setPhase id process next).setLock lane none) := by
  have after := invariant.setPhase acquiring.1 nextOk
  have left := invariant.leftLocked_setPhase acquiring locked unlocked
  exact after.setLock (after.leftLocked_unique left)

omit acquiring

/-- A lane read under its lock is handed out only when it may be. -/
theorem checkLane {document : Option Json} {state : LaneFile}
    (acquiring : world.Acquiring id process (.checking lane pending found))
    (readFrom : document = none ∨ document = world.file lane)
    (read : readLaneFile document lane = .ok state) (usable : state.abandoned = false) :
    Invariant ((world.setPhase id process none).handOut id lane state .reused) := by
  have isLocked : lane ∈ (checking lane pending found).locked := rfl
  have after := invariant.leave acquiring.1
  have left := invariant.leftLocked_setPhase acquiring isLocked
      (fun later (impossible : later ∈ none) => by cases impossible)
  have started := invariant.processesKnown acquiring.1
  rcases readFrom with absent | present
  · rw [absent] at read
    cases read
  cases here : world.file lane with
  | none =>
    rw [present, here] at read
    cases read
  | some contents =>
    obtain ⟨validLane, stored, isDocument, safe, marked⟩ :=
      (invariant.lanes lane).file contents here
    rw [present, here, isDocument, readLaneFile_document validLane safe.valid] at read
    cases read
    apply after.handOut left started
    · exact fun missing => by
        have contradiction := here.symm.trans missing
        cases contradiction
    · exact safe
    · exact usable
    · intro wasAbandoned
      rw [marked wasAbandoned] at usable
      cases usable
    intro failed
    rcases invariant.failedAbandons id process lane acquiring.1 failed
      with excluded | ⟨witness, witnessEntry, isOpen, facts⟩
    · exact (invariant.phases acquiring).listed lane List.mem_cons_self excluded
    · have owner := invariant.storeLocks witness witnessEntry isOpen
      rw [facts.2.1, (invariant.phases acquiring).locked lane isLocked] at owner
      cases owner

/-- The write of `mint`, under each of its outcomes. -/
theorem writeMinted {write : WriteOutcome} {reason : AcquireReason}
    (acquiring : world.Acquiring id process (.writing lane found)) :
    Invariant (if write.succeeded then
        ((world.setPhase id process none).setFile lane (write.apply (world.file lane)
            (some (laneDocument (mintedFile lane))))).handOut id lane (mintedFile lane) reason
      else
        ((world.setPhase id process none).setFile lane (write.apply (world.file lane)
            (some (laneDocument (mintedFile lane))))).setLock lane none) := by
  have isLocked : lane ∈ (writing lane found).locked := rfl
  have absent : world.file lane = none := (invariant.phases acquiring).absent lane rfl
  have validLane : validClientLane lane = true :=
    (invariant.phases acquiring).minted lane rfl
  have after := invariant.leave acquiring.1
  have left := invariant.leftLocked_setPhase acquiring isLocked
      (fun later (impossible : later ∈ none) => by cases impossible)
  have minted := after.mintFile left absent validLane
  have started := invariant.processesKnown acquiring.1
  obtain ⟨unheld, notAbandoned, notFailed⟩ := (invariant.lanes lane).unused absent
  cases write with
  | stored =>
    apply minted.handOut left started
    · rw [file_setFile_same]
      exact Option.some_ne_none _
    · exact ⟨.minted lane, fun seq isHeld => (unheld seq isHeld).elim,
          fun seq isHeld => (unheld seq isHeld).elim⟩
    · rfl
    · exact notAbandoned
    · exact notFailed id
  | failedBeforeRename =>
    simp only [succeeded_failedBeforeRename,
      apply_failedBeforeRename, absent,
      Bool.false_eq_true, if_false]
    exact after.setLock (after.leftLocked_unique left)
  | failedAfterRename => exact minted.setLock (minted.leftLocked_unique left)

/-- Take the free lock of a lane and go on to a phase that holds it. -/
theorem lockAndGo {next : AcquirePhase} (present : world.processes id = some process)
    (free : (world.locks lane).isSome = false)
    (nextOk : PhaseOk (world.setLock lane (some (.acquirer id))) id process next) :
    Invariant ((world.setLock lane (some (.acquirer id))).setPhase id process (some next)) := by
  have isFree : world.locks lane = none := by
    simpa using free
  have locked : Invariant (world.setLock lane (some (.acquirer id))) :=
    invariant.setLock (invariant.unlocked_unused isFree)
  exact locked.enter present nextOk

theorem acquireStep (input : AcquireInput) (acquiring : world.Acquiring id process phase) :
    Invariant (world.acquireStep id process input phase) := by
  have present := acquiring.1
  have giveUp := invariant.leave present
  cases phase with
  | scanning pending found =>
    have listed := (invariant.phases acquiring).listed
    cases pending with
    | nil => exact invariant.enter present phaseOk_minting
    | cons lane rest =>
      simp only [acquireStep]
      split
      · exact giveUp
      split
      · apply invariant.enter present
        apply phaseOk_scanning
        intro other member
        exact listed other (List.mem_cons_of_mem lane member)
      · rename_i free
        apply invariant.lockAndGo present
        · simpa using free
        refine ⟨?_, ?_, ?_, listed⟩
        · intro other isLane
          cases isLane
          simp [World.setLock]
        · intro other impossible
          cases impossible
        · intro other impossible
          cases impossible
  | checking lane pending found =>
    have isLocked : lane ∈ (checking lane pending found).locked := rfl
    have listed := (invariant.phases acquiring).listed
    have skipped : Invariant
        ((world.setPhase id process (some (.scanning pending found))).setLock lane none) := by
      apply invariant.skip acquiring isLocked
      · intro later isNext locked
        cases isNext
        cases locked
      intro later isNext
      cases isNext
      apply phaseOk_scanning
      intro other member
      exact listed other (List.mem_cons_of_mem lane member)
    simp only [acquireStep]
    split
    · exact skipped
    rename_i state read
    split
    · exact skipped
    rename_i usable
    apply invariant.checkLane acquiring _ read
    · simpa using usable
    · split
      · exact Or.inl rfl
      · exact Or.inr rfl
  | minting attempt found =>
    simp only [acquireStep]
    split
    · exact giveUp
    split
    · exact invariant.enter present phaseOk_minting
    rename_i free
    apply invariant.lockAndGo present
    · simpa using free
    refine ⟨?_, ?_, ?_, ?_⟩
    · intro other isLane
      cases isLane
      simp [World.setLock]
    · intro other isLane
      cases isLane
      exact validClientLane_hexEncode (by simp)
    · intro other impossible
      cases impossible
    · intro other impossible
      cases impossible
  | probing lane attempt found =>
    have isLocked : lane ∈ (probing lane attempt found).locked := rfl
    simp only [acquireStep]
    split
    · apply invariant.skip acquiring isLocked
      · intro later impossible
        cases impossible
      · intro later impossible
        cases impossible
    · split
      · apply invariant.skip acquiring isLocked
        · intro later isNext locked
          cases isNext
          cases locked
        · intro later isNext
          cases isNext
          exact phaseOk_minting
      · rename_i missing
        apply invariant.enter present
        have before := invariant.phases acquiring
        refine ⟨before.locked, before.minted, ?_, before.listed⟩
        intro other isLane
        cases isLane
        simpa using missing
  | writing lane found => exact invariant.writeMinted acquiring

/-! ## Whole runs -/

/-- Run a store operation, open or closed. -/
theorem operate
    {handle : Nat}
    {entry : Entry}
    {outcome : StoreOutcome α}
    {events : List Event}
    {failure : LaneError}
    (present : world.entries handle = some entry)
    (whenClosed : entry.store.closed = true →
        outcome = refuse failure entry.store (world.file entry.store.lane) ∧ events = [])
    (whenOpen : world.IsOpen handle entry → Invariant (world.publish handle entry outcome events)) :
    Invariant (world.publish handle entry outcome events) := by
  cases isClosed : entry.store.closed with
  | true =>
    obtain ⟨refused, noEvents⟩ := whenClosed isClosed
    rw [refused, noEvents]
    exact invariant.publishRefused present
  | false => exact whenOpen ⟨present, isClosed⟩

/-- An action on a handle, which may be unknown. -/
theorem atEntry {handle : Nat} {next : Entry → World}
    (kept : ∀ entry, world.entries handle = some entry → Invariant (next entry)) :
    Invariant (match world.entries handle with
      | none => world
      | some entry => next entry) := by
  split
  · exact invariant
  · rename_i entry present
    exact kept entry present

/-- An action on an open store that a rotation left at the given point. -/
theorem atRotation
    {handle : Nat}
    {entry : Entry}
    {rotation : Rotation}
    {next : World}
    (present : world.entries handle = some entry)
    (kept : world.IsOpen handle entry → entry.rotation = rotation → Invariant next) :
    Invariant (if entry.store.closed ∨ entry.rotation ≠ rotation then world else next) := by
  split
  · exact invariant
  · rename_i enabled
    simp only [not_or, Bool.not_eq_true, not_not] at enabled
    exact kept ⟨present, enabled.1⟩ enabled.2

theorem step (action : Action) : Invariant (world.step action) := by
  cases action with
  | start => exact invariant.start
  | acquire id ioFails =>
    simp only [World.step]
    split
    · rename_i excluded present
      split
      · exact invariant
      apply invariant.enter present
      apply phaseOk_scanning
      intro lane member
      simp only [List.mem_mergeSort, List.mem_filter] at member
      simpa using member.2
    · exact invariant
  | acquireStep id input =>
    simp only [World.step]
    split
    · rename_i excluded phase present
      exact invariant.acquireStep input ⟨present, rfl⟩
    · exact invariant
  | reserve handle write =>
    refine invariant.atEntry fun entry present => ?_
    apply invariant.operate present
    · intro isClosed
      simp only [LanedStore.reserve, isClosed, if_true]
      exact ⟨rfl, rfl⟩
    · intro isOpen
      obtain ⟨safe, _, _, stored, onDisk, safeStored⟩ := invariant.copies isOpen
      exact invariant.publishIssue isOpen (reserve_issues onDisk safeStored safe write)
  | reserveSupplied handle seq write =>
    refine invariant.atEntry fun entry present => ?_
    apply invariant.operate present
    · intro isClosed
      simp only [LanedStore.reserveSupplied, isClosed, if_true]
      exact ⟨rfl, rfl⟩
    · intro isOpen
      obtain ⟨safe, _, _, stored, onDisk, safeStored⟩ := invariant.copies isOpen
      exact invariant.publishIssue isOpen
        (reserveSupplied_issues onDisk safeStored safe write seq.toNat_lt)
  | release handle seq write =>
    refine invariant.atEntry fun entry present => ?_
    apply invariant.operate present
    · intro isClosed
      simp only [LanedStore.release, isClosed, if_true]
      exact ⟨rfl, rfl⟩
    · intro isOpen
      exact invariant.publishRelease isOpen write seq.toNat
  | rotateAbandon handle write =>
    refine invariant.atEntry fun entry present => ?_
    refine invariant.atRotation present fun isOpen idle => ?_
    exact invariant.rotateAbandon write isOpen idle
  | rotateExclude handle =>
    refine invariant.atEntry fun entry present => ?_
    split
    · rename_i excluded failed running
      exact invariant.exclude present running
    · exact invariant
  | rotateClose handle =>
    refine invariant.atEntry fun entry present => ?_
    refine invariant.atRotation present fun isOpen excluded => ?_
    exact invariant.retire isOpen (by simp [excluded]) rfl rfl
  | close handle =>
    refine invariant.atEntry fun entry present => ?_
    refine invariant.atRotation present fun isOpen idle => ?_
    exact invariant.retire isOpen (by simp [idle]) rfl rfl
  | crash id => exact invariant.crash

theorem run (actions : List Action) : Invariant (world.run actions) := by
  induction actions generalizing world with
  | nil => exact invariant
  | cons action rest inductionHypothesis => exact inductionHypothesis (invariant.step action)

end Invariant

theorem HandedOutSafely.of_append
    {later earlier : List Event} (safely : HandedOutSafely (later ++ earlier)) :
    HandedOutSafely earlier := by
  induction later with
  | nil => exact safely
  | cons event rest inductionHypothesis =>
    cases event with
    | handedOut lane process handle reason => exact inductionHypothesis safely.2
    | _ => exact inductionHypothesis safely

/-! ## Releases by the holder -/

theorem ReleasedByIssuer.of_append
    {later earlier : List Event}
    (owned : ReleasedByIssuer (later ++ earlier)) :
    ReleasedByIssuer earlier := by
  induction later with
  | nil =>
    exact owned
  | cons event rest inductionHypothesis =>
    cases event with
    | released lane seq handle => exact inductionHypothesis owned.2
    | _ => exact inductionHypothesis owned

/-- A step of `Acquire` records at most a lane that it hands out. -/
theorem history_acquireStep
    (world : World)
    (id : Nat)
    (process : Process)
    (input : AcquireInput)
    (phase : AcquirePhase) :
    (world.acquireStep id process input phase).history = world.history ∨
      ∃ event, (world.acquireStep id process input phase).history = event :: world.history ∧
        event.releasedPair = none := by
  -- the scan hands out a lane that it checked, the mint one that it wrote
  unfold World.acquireStep
  dsimp only
  repeat' split
  all_goals first
    | exact .inl rfl
    | exact .inr ⟨_, rfl, rfl⟩

/-- A step records at most one event, and a release only for a `Release` of that store. -/
theorem history_step
    (world : World)
    (action : Action) :
    (world.step action).history = world.history ∨
      ∃ event, (world.step action).history = event :: world.history ∧
        ∀ lane seq handle, event = .released lane seq handle →
          ∃ entry sent write, action = .release handle sent write ∧
            world.entries handle = some entry ∧
            entry.store.lane = lane ∧
            sent.toNat = seq := by
  cases action with
  | start | crash =>
    exact .inl rfl
  | acquire | rotateExclude | rotateClose | close =>
    simp only [World.step]
    repeat' split
    all_goals exact .inl rfl
  | acquireStep id input =>
    simp only [World.step]
    split
    · rcases history_acquireStep world _ _ input _ with same | ⟨event, added, silent⟩
      · exact .inl same
      refine .inr ⟨event, added, ?_⟩
      rintro lane seq handle rfl
      cases silent
    · exact .inl rfl
  | reserve handle write | reserveSupplied handle seq write =>
    simp only [World.step]
    split
    · exact .inl rfl
    · simp only [publish, keep, record, issueEvents]
      split
      · exact .inr ⟨_, rfl, fun _ _ _ impossible => by cases impossible⟩
      · exact .inl rfl
  | release handle seq write =>
    simp only [World.step]
    split
    · exact .inl rfl
    · rename_i entry present
      simp only [publish, keep, record, releaseEvents]
      split
      · refine .inr ⟨_, rfl, ?_⟩
        rintro lane released releasing ⟨⟩
        exact ⟨entry, seq, write, rfl, present, rfl, rfl⟩
      · exact .inl rfl
  | rotateAbandon handle write =>
    simp only [World.step]
    split
    · exact .inl rfl
    · split
      · exact .inl rfl
      · simp only [World.rotateAbandon]
        split <;> exact .inr ⟨_, rfl, fun _ _ _ impossible => by cases impossible⟩

/-- Callers that release only what they reserved leave such a history. -/
theorem releasedByIssuer_run
    {actions : List Action}
    (own : ReleasesOwn actions) :
    ReleasedByIssuer (initial.run actions).history := by
  induction actions using List.reverseRecOn with
  | nil =>
    trivial
  | append_singleton earlier action inductionHypothesis =>
    have before : ReleasedByIssuer (initial.run earlier).history := by
      apply inductionHypothesis
      intro first handle seq write rest entry split present
      apply own first handle seq write (rest ++ [action]) entry _ present
      rw [split, List.append_assoc, List.cons_append]
    have last : initial.run (earlier ++ [action]) = (initial.run earlier).step action :=
      List.foldl_concat ..
    rw [last]
    rcases history_step (initial.run earlier) action with same | ⟨event, added, source⟩
    · rwa [same]
    rw [added]
    cases event with
    | released lane seq handle =>
      obtain ⟨entry, sent, write, rfl, present, rfl, rfl⟩ := source lane seq handle rfl
      exact ⟨own earlier handle sent write [] entry rfl present, before⟩
    | _ =>
      exact before

/-- Until its holder releases it, an issued pair stays with its holder. -/
theorem holder_until_released
    {lane : Lane}
    {seq holder : Nat}
    {between earlier : List Event}
    (owned : ReleasedByIssuer (between ++ .issued lane seq holder :: earlier))
    (once : ledger.IssuedOnce (between ++ .issued lane seq holder :: earlier)) :
    Event.released lane seq holder ∈ between ∨
      (lastIssuer lane seq (between ++ .issued lane seq holder :: earlier) = some holder ∧
        ∀ event ∈ between, ledger.released event ≠ some (lane, seq)) := by
  induction between with
  | nil =>
    exact .inr ⟨by simp [lastIssuer], by simp⟩
  | cons event rest inductionHypothesis =>
    have ownedRest : ReleasedByIssuer (rest ++ .issued lane seq holder :: earlier) := by
      cases event with
      | released otherLane otherSeq handle => exact owned.2
      | _ => exact owned
    rcases inductionHypothesis ownedRest once.2 with released | ⟨last, unreleased⟩
    · exact .inl (List.mem_cons_of_mem event released)
    cases event with
    | issued otherLane otherSeq handle =>
      have differs : ¬(otherLane = lane ∧ otherSeq = seq) := by
        rintro ⟨rfl, rfl⟩
        exact once.1 _ rfl (Ledger.outstanding_of_unreleased rfl unreleased)
      right
      simp only [List.cons_append, lastIssuer, if_neg differs]
      exact ⟨last, List.forall_mem_cons.mpr ⟨nofun, unreleased⟩⟩
    | released otherLane otherSeq handle =>
      by_cases same : otherLane = lane ∧ otherSeq = seq
      · obtain ⟨rfl, rfl⟩ := same
        have isHolder : some handle = some holder := owned.1.symm.trans last
        cases isHolder
        exact .inl List.mem_cons_self
      · right
        refine ⟨last, List.forall_mem_cons.mpr ⟨?_, unreleased⟩⟩
        intro release
        cases release
        exact same ⟨rfl, rfl⟩
    | handedOut | abandoned | abandonFailed =>
      exact .inr ⟨last, List.forall_mem_cons.mpr ⟨nofun, unreleased⟩⟩

/--
In every run of processes over one lanes directory, two open stores have
different lanes; a pair of lane and seq is issued again only after a release of
it, by the very store it was issued to where callers release only what they
reserved; a lane is handed out neither after it was abandoned nor, by the process
whose abandon failed, after that failure; and every lane file reads back with
an ascending free list of at most 64 entries below a `next` that did not wrap.
-/
theorem lanes_exclusive_and_issued_once (actions : List Action) :
    (∀ first second firstEntry secondEntry, (initial.run actions).IsOpen first firstEntry →
      (initial.run actions).IsOpen second secondEntry →
      firstEntry.store.lane = secondEntry.store.lane → first = second) ∧
    (∀ lane seq handle otherHandle later between earlier,
      (initial.run actions).history = later ++ .issued lane seq handle ::
          (between ++ .issued lane seq otherHandle :: earlier) →
        (∃ releasing, Event.released lane seq releasing ∈ between) ∧
          (ReleasesOwn actions → Event.released lane seq otherHandle ∈ between)) ∧
    (∀ lane process handle reason later earlier, (initial.run actions).history =
        later ++ .handedOut lane process handle reason :: earlier →
        Event.abandoned lane ∉ earlier ∧ Event.abandonFailed process lane ∉ earlier) ∧
    (∀ lane document, (initial.run actions).file lane = some document → ∃ stored,
        readLaneFile (some document) lane = .ok stored ∧
        Ascending stored.free ∧
        stored.free.length ≤ maxFreeSeqs ∧
        (∀ seq ∈ stored.free, 0 < seq ∧ seq < stored.next) ∧
        0 < stored.next ∧ stored.next < uint64Size) := by
  have invariant := invariant_initial.run actions
  refine ⟨?_, ?_, ?_, ?_⟩
  · intro first second firstEntry secondEntry firstOpen secondOpen same
    exact invariant.openUnique firstOpen secondOpen same
  · intro lane seq handle otherHandle later between earlier split
    have once := invariant.once
    rw [split] at once
    obtain ⟨middle, member, release⟩ := once.released_between rfl rfl
    constructor
    · cases middle with
      | released otherLane otherSeq releasing =>
        cases release
        exact ⟨releasing, member⟩
      | _ => cases release
    intro own
    have owned := releasedByIssuer_run own
    rw [split] at owned
    rcases holder_until_released owned.of_append once.of_append.2 with released | ⟨-, unreleased⟩
    · exact released
    · exact (unreleased middle member release).elim
  · intro lane process handle reason later earlier split
    have safely := invariant.handedOut
    rw [split] at safely
    exact safely.of_append.1
  · intro lane document present
    obtain ⟨validLane, stored, isDocument, safe, _⟩ := (invariant.lanes lane).file document present
    refine ⟨stored, ?_, safe.valid.free.ascending, safe.valid.free.capped,
        fun seq member => safe.valid.below member,
        safe.valid.positive, safe.valid.fits⟩
    rw [isDocument]
    exact readLaneFile_document validLane safe.valid

/--
In every run the file of a lane keeps every seq that is out below `next` and
off the free list, and a lane that was abandoned reads as abandoned.
-/
theorem lane_files_remember
    (actions : List Action)
    (lane : Lane) :
    let world := initial.run actions
    (world.file lane = none ∧ (∀ seq, ¬held world.history lane seq) ∧
        Event.abandoned lane ∉ world.history) ∨
      ∃ stored, readLaneFile (world.file lane) lane = .ok stored ∧
        (∀ seq, held world.history lane seq → seq < stored.next ∧ seq ∉ stored.free) ∧
        (Event.abandoned lane ∈ world.history → stored.abandoned = true) := by
  intro world
  have ok := (invariant_initial.run actions).lanes lane
  cases present : world.file lane with
  | none => exact .inl ⟨rfl, (ok.unused present).1, (ok.unused present).2.1⟩
  | some document =>
    obtain ⟨validLane, stored, rfl, safe, abandoned⟩ := ok.file document present
    refine .inr ⟨stored, readLaneFile_document validLane safe.valid, ?_, abandoned⟩
    exact fun seq out => ⟨safe.below seq out, safe.notFree seq out⟩

/-- A lane has at most one holder, an open store or acquiring process. -/
theorem lane_held_by_one
    (actions : List Action)
    (lane : Lane) :
    let world := initial.run actions
    ∃ holder, (∀ handle entry, world.IsOpen handle entry → entry.store.lane = lane →
        holder = some (LockOwner.store handle)) ∧
      ∀ id process phase, world.Acquiring id process phase → lane ∈ phase.locked →
        holder = some (.acquirer id) := by
  have invariant := invariant_initial.run actions
  refine ⟨_, ?_, fun _ _ _ acquiring => (invariant.phases acquiring).locked lane⟩
  rintro handle entry isOpen rfl
  exact invariant.storeLocks handle entry isOpen

end HouseGate.LanePool
