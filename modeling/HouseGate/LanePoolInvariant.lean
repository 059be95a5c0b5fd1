import HouseGate.LanePoolWorld

namespace HouseGate.LanePool

open JsonDocument StableStorage World Event Option Or List AcquirePhase

/-!
# What holds of every reachable lanes directory

The invariant has one part for every lane, its file against the open store over
it, and one for every process, its running `Acquire` and the lanes whose
abandon failed in it.  The lemmas follow the primitive changes of a world: a
new phase, a lock that changes hands, a lane file that appears, a store that is
handed out, updated or closed, an exclusion and a crash.
-/

variable (world : World)

/-- A store that was acquired and neither closed nor lost. -/
def World.IsOpen (handle : Nat) (entry : Entry) : Prop :=
  world.entries handle = some entry ∧ entry.store.closed = false

/-- A process with a running `Acquire`. -/
def World.Acquiring (id : Nat) (process : Process) (phase : AcquirePhase) : Prop :=
  world.processes id = some process ∧ process.acquiring = some phase

/-- The file of a lane and the open store over it. -/
structure LaneOk (lane : Lane) : Prop where
  file : ∀ document, world.file lane = some document → validClientLane lane = true ∧ ∃ stored,
        document = laneDocument stored ∧
        SafeFor (held world.history lane) lane stored ∧
        (abandoned lane ∈ world.history → stored.abandoned = true)
  unused : world.file lane = none → (∀ seq, ¬ held world.history lane seq) ∧
      abandoned lane ∉ world.history ∧
      (∀ process, abandonFailed process lane ∉ world.history)
  store : ∀ handle entry, world.IsOpen handle entry → entry.store.lane = lane →
      world.file lane ≠ none ∧
      SafeFor (held world.history lane) lane entry.store.state ∧
      entry.store.state.abandoned = false ∧ abandoned lane ∉ world.history

/-- What a phase of `Acquire` relies on. -/
structure PhaseOk
    (id : Nat)
    (process : Process)
    (phase : AcquirePhase) : Prop where
  locked : ∀ lane ∈ phase.locked, world.locks lane = some (.acquirer id)
  minted : ∀ lane ∈ phase.minted, validClientLane lane = true
  absent : ∀ lane ∈ phase.absent, world.file lane = none
  listed : ∀ lane ∈ phase.listed, lane ∉ process.excluded

/-- What holds of every reachable world. -/
structure Invariant : Prop where
  lanes : ∀ lane, LaneOk world lane
  storeLocks :
    ∀ handle entry, world.IsOpen handle entry → world.locks entry.store.lane = some (.store handle)
  phases : ∀ {id process phase},
    world.Acquiring id process phase → PhaseOk world id process phase
  failedAbandons : ∀ id process lane, world.processes id = some process →
      abandonFailed id lane ∈ world.history → lane ∈ process.excluded ∨
        ∃ handle entry, world.IsOpen handle entry ∧
          entry.process = id ∧ entry.store.lane = lane ∧ entry.rotation = .abandonFailed
  startedProcesses : ∀ id lane, abandonFailed id lane ∈ world.history → id < world.started
  processesKnown : ∀ {id process}, world.processes id = some process → id < world.started
  entriesKnown : ∀ {handle entry}, world.entries handle = some entry →
    handle < world.acquired ∧ entry.process < world.started
  once : ledger.IssuedOnce world.history
  handedOut : HandedOutSafely world.history

/-- A lane of which a later world shows the same. -/
theorem LaneOk.transfer
    {before after : World}
    {lane : Lane}
    (ok : LaneOk before lane)
    (sameFile : after.file lane = before.file lane)
    (sameHeld : held after.history lane = held before.history lane)
    (abandoned : abandoned lane ∈ after.history ↔ abandoned lane ∈ before.history)
    (failed : ∀ process, abandonFailed process lane ∈ after.history →
        abandonFailed process lane ∈ before.history)
    (store : ∀ handle entry, after.IsOpen handle entry → entry.store.lane = lane →
        before.file lane ≠ none ∧
        SafeFor (held before.history lane) lane entry.store.state ∧
        entry.store.state.abandoned = false ∧ Event.abandoned lane ∉ before.history) :
    LaneOk after lane where
  file := by
    rw [sameFile, sameHeld, abandoned]
    exact ok.file
  unused := by
    rw [sameFile, sameHeld, abandoned]
    intro absent
    obtain ⟨unheld, notAbandoned, notFailed⟩ := ok.unused absent
    exact ⟨unheld, notAbandoned, fun process => notFailed process ∘ failed process⟩
  store := by
    rw [sameFile, sameHeld, abandoned]
    exact store

theorem invariant_initial : Invariant initial where
  lanes := by
    intro lane
    refine ⟨?_, ?_, ?_⟩
    · intro document present
      cases present
    · intro absent
      exact ⟨fun seq impossible => impossible, not_mem_nil, fun process => not_mem_nil⟩
    · intro handle entry isOpen
      cases isOpen.1
  storeLocks := by
    intro handle entry isOpen
    cases isOpen.1
  phases := by
    intro id process phase acquiring
    cases acquiring.1
  failedAbandons := by
    intro id process lane present
    cases present
  startedProcesses := by
    intro id lane member
    cases member
  processesKnown := by
    intro id process present
    cases present
  entriesKnown := by
    intro handle entry present
    cases present
  once := trivial
  handedOut := trivial

/-! ## Steps of `Acquire` -/

/-- The lock that a finished or skipping `Acquire` has yet to pass on. -/
def World.LeftLocked (id : Nat) (lane : Lane) : Prop :=
  world.locks lane = some (.acquirer id) ∧
    ∀ process phase, world.Acquiring id process phase → lane ∉ phase.locked

variable {phase : AcquirePhase}

theorem AcquirePhase.locked_of_absent {lane : Lane} (absent : lane ∈ phase.absent) :
    lane ∈ phase.locked := by
  cases phase with
  | writing other found => exact absent
  | _ => cases absent

variable {outcome : StoreOutcome α}

namespace Invariant

variable {world} {id : Nat} {process : Process} {lane : Lane}

/-- A lane that no open store and no `Acquire` counts on. -/
structure Unused (world : World) (lane : Lane) : Prop where
  noStore : ∀ handle entry, world.IsOpen handle entry → entry.store.lane ≠ lane
  noAcquirer : ∀ id process phase, world.Acquiring id process phase → lane ∉ phase.locked

theorem entries_setEntry {handle other : Nat} {next entry : Entry}
    (here : (world.setEntry handle (some next)).entries other = some entry) :
    (other = handle ∧ entry = next) ∨ (other ≠ handle ∧ world.entries other = some entry) := by
  by_cases same : other = handle
  · simp only [setEntry, same, if_true, some.injEq] at here
    exact inl ⟨same, here.symm⟩
  · simp only [setEntry, same, if_false] at here
    exact inr ⟨same, here⟩

theorem setEntry_same
    {handle : Nat}
    {entry : Entry}
    (present : world.entries handle = some entry) :
    world.setEntry handle (some entry) = world := by
  have same : (fun other => if other = handle then some entry else world.entries other) =
      world.entries := by
    funext other
    split
    · rename_i same
      rw [same, present]
    · rfl
  rw [setEntry, same]

theorem processes_setProcess {other : Nat} {next : Process}
    (here : (world.setProcess id (some next)).processes other = some process) :
    (other = id ∧ process = next) ∨ (other ≠ id ∧ world.processes other = some process) := by
  by_cases same : other = id
  · simp only [setProcess, same, if_true, some.injEq] at here
    exact inl ⟨same, here.symm⟩
  · simp only [setProcess, same, if_false] at here
    exact inr ⟨same, here⟩

variable
  {events : List Event} {handle : Nat} {entry next : Entry} {other : Lane} {disk : Option Json}

@[simp] theorem file_record : (world.record events).file other = world.file other := rfl

@[simp] theorem file_keep {entry : Entry} : (world.keep handle lane disk entry events).file other =
    (world.setFile lane disk).file other := rfl

theorem file_setFile_same {document : Json} :
    (world.setFile lane (some document)).file lane = some document := by
  simp [setFile, file]

theorem file_setFile_other {document : Option Json} (different : other ≠ lane) :
    (world.setFile lane document).file other = world.file other := by
  cases document with
  | none => rfl
  | some value => simp [setFile, file, AList.lookup_insert_ne different]

variable (invariant : Invariant world)

include invariant

/-- An entry that is replaced keeps its handle and its process. -/
theorem known_setEntry {other : Nat} {otherEntry : Entry}
    (present : world.entries handle = some entry) (sameProcess : next.process = entry.process)
    (here : (world.setEntry handle (some next)).entries other = some otherEntry) :
    other < world.acquired ∧ otherEntry.process < world.started := by
  rcases entries_setEntry here with ⟨rfl, rfl⟩ | ⟨_, wasPresent⟩
  · rw [sameProcess]
    exact invariant.entriesKnown present
  · exact invariant.entriesKnown wasPresent

theorem setPhase {phase : Option AcquirePhase} (present : world.processes id = some process)
    (phaseOk : ∀ next ∈ phase, PhaseOk world id process next) :
    Invariant (world.setPhase id process phase) := by
  have excluded : ∀ other otherProcess, (world.setPhase id process phase).processes other =
      some otherProcess → ∃ before, world.processes other = some before ∧
            otherProcess.excluded = before.excluded := by
    intro other otherProcess here
    rcases processes_setProcess here with ⟨rfl, rfl⟩ | ⟨_, here⟩
    · exact ⟨process, present, rfl⟩
    · exact ⟨otherProcess, here, rfl⟩
  refine { invariant with
      lanes := fun lane => { invariant.lanes lane with }
      phases := ?_
      failedAbandons := ?_
      processesKnown := ?_ }
  · -- Another process keeps its phase; this one has the new phase.
    intro other otherProcess otherPhase acquiring
    obtain ⟨here, running⟩ := acquiring
    rcases processes_setProcess here with ⟨rfl, rfl⟩ | ⟨_, here⟩
    · exact { phaseOk otherPhase running with }
    · exact { invariant.phases ⟨here, running⟩ with }
  · intro other otherProcess lane here failed
    obtain ⟨before, presentBefore, same⟩ := excluded other otherProcess here
    rw [same]
    exact invariant.failedAbandons other before lane presentBefore failed
  · intro other otherProcess here
    rcases processes_setProcess here with ⟨rfl, _⟩ | ⟨_, here⟩
    · exact invariant.processesKnown present
    · exact invariant.processesKnown here

/-- A lock left behind by an `Acquire` belongs to nobody else. -/
theorem leftLocked_unique (left : world.LeftLocked id lane) : Unused world lane where
  noStore := by
    intro handle entry isOpen same
    have owner := invariant.storeLocks handle entry isOpen
    rw [same, left.1] at owner
    cases owner
  noAcquirer := by
    intro other otherProcess phase acquiring locked
    have owner := (invariant.phases acquiring).locked lane locked
    rw [left.1] at owner
    cases owner
    exact left.2 otherProcess phase acquiring locked

/-- A lane whose lock is free has no user. -/
theorem unlocked_unused (free : world.locks lane = none) : Unused world lane where
  noStore := by
    intro handle entry isOpen same
    have owner := invariant.storeLocks handle entry isOpen
    rw [same, free] at owner
    cases owner
  noAcquirer := by
    intro other otherProcess phase acquiring locked
    have owner := (invariant.phases acquiring).locked lane locked
    rw [free] at owner
    cases owner

/-- The lock of a lane without users can change hands. -/
theorem setLock {owner : Option LockOwner} (unused : Unused world lane) :
    Invariant (world.setLock lane owner) := by
  refine { invariant with
      lanes := fun other => { invariant.lanes other with }
      storeLocks := ?_
      phases := ?_ }
  · intro handle entry isOpen
    have different := unused.noStore handle entry isOpen
    simpa [World.setLock, different] using invariant.storeLocks handle entry isOpen
  · intro other otherProcess phase acquiring
    have before := invariant.phases acquiring
    refine { before with locked := ?_ }
    intro otherLane locked
    have different := ne_of_mem_of_not_mem locked (unused.noAcquirer _ _ _ acquiring)
    simpa [World.setLock, different] using before.locked otherLane locked

/-- Lanes that are to be minted stay absent when another lane is written. -/
theorem phases_setFile (disk : Option Json)
    (noAcquirer : ∀ id process phase, world.Acquiring id process phase → lane ∉ phase.locked)
    (acquiring : world.Acquiring id process phase) :
    PhaseOk (world.setFile lane disk) id process phase := by
  have before := invariant.phases acquiring
  refine { before with absent := ?_ }
  intro other absent
  have locked := locked_of_absent absent
  have different := ne_of_mem_of_not_mem locked (noAcquirer id process phase acquiring)
  rw [file_setFile_other different]
  exact before.absent other absent

/-- A minted file appears under a lane that nobody used before. -/
theorem mintFile (left : world.LeftLocked id lane) (absent : world.file lane = none)
    (validLane : validClientLane lane = true) :
    Invariant (world.setFile lane (some (laneDocument (mintedFile lane)))) := by
  have noUser := invariant.leftLocked_unique left
  have unused := (invariant.lanes lane).unused absent
  refine { invariant with
      lanes := ?_
      phases := invariant.phases_setFile _ noUser.noAcquirer }
  · intro other
    by_cases same : other = lane
    · subst same
      refine ⟨?_, ?_, ?_⟩
      · intro document present
        rw [file_setFile_same, some.injEq] at present
        refine ⟨validLane, mintedFile other, present.symm, ?_, ?_⟩
        · exact ⟨.minted other,
              fun seq isHeld => (unused.1 seq isHeld).elim,
              fun seq isHeld => (unused.1 seq isHeld).elim⟩
        · intro wasAbandoned
          exact (unused.2.1 wasAbandoned).elim
      · intro missing
        rw [file_setFile_same] at missing
        cases missing
      · intro handle entry isOpen sameLane
        exact (noUser.noStore handle entry isOpen sameLane).elim
    · have before := invariant.lanes other
      exact before.transfer (file_setFile_other same) rfl Iff.rfl
        (fun _ failed => failed) before.store

/-- A lane that may be handed out becomes an open store. -/
theorem handOut
    {state : LaneFile}
    {reason : AcquireReason}
    (left : world.LeftLocked id lane)
    (started : id < world.started)
    (present : world.file lane ≠ none)
    (safe : SafeFor (held world.history lane) lane state)
    (usable : state.abandoned = false)
    (notAbandoned : Event.abandoned lane ∉ world.history)
    (notFailed : abandonFailed id lane ∉ world.history) :
    Invariant (world.handOut id lane state reason) := by
  have passed : Invariant (world.setLock lane (some (.store world.acquired))) :=
    invariant.setLock (invariant.leftLocked_unique left)
  have isHeld : held (world.handOut id lane state reason).history = held world.history :=
    held_other rfl rfl
  have abandonedBefore : ∀ other, abandoned other ∈
      (world.handOut id lane state reason).history ↔ abandoned other ∈ world.history := by
    intro other
    simp [World.handOut, World.record, World.setEntry, World.setLock]
  have failedBefore : ∀ other otherLane, abandonFailed other otherLane ∈
      (world.handOut id lane state reason).history ↔
          abandonFailed other otherLane ∈ world.history := by
    intro other otherLane
    simp [World.handOut, World.record, World.setEntry, World.setLock]
  have opened : ∀ handle entry, (world.handOut id lane state reason).IsOpen handle entry →
      (handle = world.acquired ∧ entry = ⟨id, ⟨lane, state, false, false⟩, .idle⟩) ∨
      (handle ≠ world.acquired ∧ world.IsOpen handle entry) := by
    intro handle entry isOpen
    obtain ⟨here, notClosed⟩ := isOpen
    rcases entries_setEntry here with isNew | ⟨different, here⟩
    · exact inl isNew
    · exact inr ⟨different, here, notClosed⟩
  have stillOpen : ∀ handle entry, world.IsOpen handle entry →
      (world.handOut id lane state reason).IsOpen handle entry := by
    intro handle entry isOpen
    have different := (invariant.entriesKnown isOpen.1).1.ne
    refine ⟨?_, isOpen.2⟩
    simpa [World.handOut, World.record, World.setEntry, World.setLock, different]
      using isOpen.1
  refine { passed with
      lanes := ?_
      storeLocks := ?_
      phases := fun acquiring => { passed.phases acquiring with }
      failedAbandons := ?_
      startedProcesses := ?_
      entriesKnown := ?_
      once := invariant.once.cons_other rfl
      handedOut := ⟨⟨notAbandoned, notFailed⟩, invariant.handedOut⟩ }
  · intro other
    have before := invariant.lanes other
    refine before.transfer rfl (congrFun isHeld other) (abandonedBefore other)
      (fun process => (failedBefore process other).mp) ?_
    intro handle entry isOpen sameLane
    rcases opened handle entry isOpen with ⟨_, isNew⟩ | ⟨_, wasOpen⟩
    · subst isNew
      subst sameLane
      exact ⟨present, safe, usable, notAbandoned⟩
    · exact before.store handle entry wasOpen sameLane
  · intro handle entry isOpen
    rcases opened handle entry isOpen with ⟨same, isNew⟩ | ⟨_, wasOpen⟩
    · subst isNew
      simp [World.handOut, World.record, World.setEntry, World.setLock, same]
    · exact passed.storeLocks handle entry wasOpen
  · intro other otherProcess otherLane here failed
    rcases invariant.failedAbandons other otherProcess otherLane here
        ((failedBefore other otherLane).mp failed)
      with excluded | ⟨handle, entry, wasOpen, rest⟩
    · exact inl excluded
    · exact inr ⟨handle, entry, stillOpen handle entry wasOpen, rest⟩
  · intro other otherLane failed
    exact invariant.startedProcesses other otherLane ((failedBefore other otherLane).mp failed)
  · intro handle entry here
    rcases entries_setEntry here with ⟨rfl, rfl⟩ | ⟨_, here⟩
    · exact ⟨Nat.lt_succ_self _, started⟩
    · obtain ⟨handleKnown, processKnown⟩ := invariant.entriesKnown here
      exact ⟨Nat.lt_succ_of_lt handleKnown, processKnown⟩

/-! ## Store operations -/

/-- Two open stores never share a lane. -/
theorem openUnique {first second : Nat} {firstEntry secondEntry : Entry}
    (firstOpen : world.IsOpen first firstEntry) (secondOpen : world.IsOpen second secondEntry)
    (same : firstEntry.store.lane = secondEntry.store.lane) :
    first = second := by
  have firstOwner := invariant.storeLocks first firstEntry firstOpen
  have secondOwner := invariant.storeLocks second secondEntry secondOpen
  rw [same, secondOwner] at firstOwner
  cases firstOwner
  rfl

/-- A lane locked by an open store is not locked by any `Acquire`. -/
theorem notAbsent_of_open {entry : Entry} (isOpen : world.IsOpen handle entry)
    (acquiring : world.Acquiring id process phase) :
    entry.store.lane ∉ phase.locked := by
  intro locked
  have owner := (invariant.phases acquiring).locked _ locked
  rw [invariant.storeLocks handle entry isOpen] at owner
  cases owner

/-- What the events of one store operation on a lane may do. -/
structure LaneEvents
    (world : World)
    (entry : Entry)
    (next : Entry)
    (events : List Event) : Prop where
  others : ∀ other, other ≠ entry.store.lane → ∀ seq,
      held (events ++ world.history) other seq ↔ held world.history other seq
  abandoned : ∀ other, abandoned other ∉ events
  failed : ∀ other otherLane, abandonFailed other otherLane ∈ events →
      other = entry.process ∧ otherLane = entry.store.lane ∧ next.rotation = .abandonFailed
  once : ledger.IssuedOnce (events ++ world.history)
  handedOut : HandedOutSafely (events ++ world.history)

/-- Lanes other than the one a store operation works on. -/
theorem otherLane (sameLane : next.store.lane = entry.store.lane)
    (laneEvents : LaneEvents world entry next events) (different : other ≠ entry.store.lane) :
    LaneOk (world.keep handle entry.store.lane disk next events) other := by
  have before := invariant.lanes other
  have sameHeld : held (events ++ world.history) other = held world.history other := by
    funext seq
    exact propext (laneEvents.others other different seq)
  refine before.transfer (file_setFile_other different) sameHeld ?_ ?_ ?_
  · simp [keep, record, setEntry, setFile, laneEvents.abandoned other]
  · intro failing member
    rcases mem_append.mp member with recent | earlier
    · exact (different (laneEvents.failed _ _ recent).2.1).elim
    · exact earlier
  · intro handle otherEntry otherOpen here
    rcases entries_setEntry otherOpen.1 with ⟨_, isNext⟩ | ⟨_, wasPresent⟩
    · subst isNext
      exact (different (here.symm.trans sameLane)).elim
    · exact before.store handle otherEntry ⟨wasPresent, otherOpen.2⟩ here

/-- A failed abandon of another process or lane keeps its witness. -/
theorem failedAbandons_keep {locks : Lane → Option LockOwner} (isOpen : world.IsOpen handle entry)
    (laneEvents : LaneEvents world entry next events) (sameProcess : next.process = entry.process)
    (sameLane : next.store.lane = entry.store.lane)
    (keepsFailed : next.rotation = .abandonFailed → next.store.closed = false)
    (failedStays : entry.rotation = .abandonFailed → next.rotation = .abandonFailed) :
    ∀ id process lane, world.processes id = some process →
      abandonFailed id lane ∈ events ++ world.history → lane ∈ process.excluded ∨
        ∃ other otherEntry, ({ world.keep handle entry.store.lane disk next events with
            locks := locks } : World).IsOpen other otherEntry ∧
            otherEntry.process = id ∧ otherEntry.store.lane = lane ∧
              otherEntry.rotation = .abandonFailed := by
  have mine :
      next.rotation = .abandonFailed → ({ world.keep handle entry.store.lane disk next events with
          locks := locks } : World).IsOpen handle next := by
    intro failed
    refine ⟨?_, keepsFailed failed⟩
    simp [keep, record, setEntry]
  intro id process lane present member
  rcases mem_append.mp member with recent | earlier
  · obtain ⟨isProcess, isLane, failed⟩ := laneEvents.failed _ _ recent
    refine inr ⟨handle, next, mine failed, ?_, ?_, failed⟩
    · exact sameProcess.trans isProcess.symm
    · exact sameLane.trans isLane.symm
  · rcases invariant.failedAbandons id process lane present earlier
      with excluded | ⟨other, otherEntry, otherOpen, facts⟩
    · exact inl excluded
    by_cases same : other = handle
    · subst same
      have sameEntry : otherEntry = entry := by
        have here := otherOpen.1.symm.trans isOpen.1
        cases here
        rfl
      subst sameEntry
      have failed := failedStays facts.2.2
      refine inr ⟨other, next, mine failed, ?_, ?_, failed⟩
      · exact sameProcess.trans facts.1
      · exact sameLane.trans facts.2.1
    · refine inr ⟨other, otherEntry, ⟨?_, otherOpen.2⟩, facts⟩
      simpa [keep, record, setEntry, setFile, same] using otherOpen.1

/-- A failed abandon is one of a known process. -/
theorem startedProcesses_keep
    (isOpen : world.IsOpen handle entry)
    (laneEvents : LaneEvents world entry next events)
    (id : Nat)
    (lane : Lane)
    (member : abandonFailed id lane ∈ events ++ world.history) :
    id < world.started := by
  rcases mem_append.mp member with recent | earlier
  · rw [(laneEvents.failed _ _ recent).1]
    exact (invariant.entriesKnown isOpen.1).2
  · exact invariant.startedProcesses id lane earlier

/-- A store operation after which the store is still open. -/
theorem update {stored : LaneFile} (isOpen : world.IsOpen handle entry)
    (sameProcess : next.process = entry.process) (sameLane : next.store.lane = entry.store.lane)
    (notClosed : next.store.closed = false)
    (failedStays : entry.rotation = .abandonFailed → next.rotation = .abandonFailed)
    (laneEvents : LaneEvents world entry next events)
    (safeDisk : SafeFor (held (events ++ world.history) entry.store.lane) entry.store.lane stored)
    (safeMemory : SafeFor (held (events ++ world.history) entry.store.lane)
        entry.store.lane next.store.state)
    (usable : next.store.state.abandoned = false) :
    Invariant (world.keep handle entry.store.lane (some (laneDocument stored)) next events) := by
  obtain ⟨present, _, _, notAbandoned⟩ :=
    (invariant.lanes entry.store.lane).store handle entry isOpen rfl
  have validLane : validClientLane entry.store.lane = true := by
    obtain ⟨document, present⟩ := ne_none_iff_exists'.mp present
    exact ((invariant.lanes entry.store.lane).file document present).1
  have notAbandonedAfter : abandoned entry.store.lane ∉ events ++ world.history := by
    simp [laneEvents.abandoned entry.store.lane, notAbandoned]
  refine { invariant with
      lanes := ?_
      storeLocks := ?_
      phases := fun acquiring =>
        { invariant.phases_setFile (some (laneDocument stored))
            (fun _ _ _ => invariant.notAbsent_of_open isOpen) acquiring with }
      failedAbandons := invariant.failedAbandons_keep isOpen laneEvents sameProcess
          sameLane (fun _ => notClosed) failedStays
      startedProcesses := invariant.startedProcesses_keep isOpen laneEvents
      entriesKnown := invariant.known_setEntry isOpen.1 sameProcess
      once := laneEvents.once
      handedOut := laneEvents.handedOut }
  · intro other
    by_cases same : other = entry.store.lane
    · subst same
      refine ⟨?_, ?_, ?_⟩
      · intro document here
        rw [file_keep, file_setFile_same, some.injEq] at here
        refine ⟨validLane, stored, here.symm, safeDisk, ?_⟩
        intro wasAbandoned
        exact (notAbandonedAfter wasAbandoned).elim
      · intro missing
        rw [file_keep, file_setFile_same] at missing
        cases missing
      · intro other otherEntry otherOpen otherLane
        refine ⟨?_, ?_⟩
        · rw [file_keep, file_setFile_same]
          exact some_ne_none _
        · rcases entries_setEntry otherOpen.1 with ⟨_, isNext⟩ | ⟨different, wasPresent⟩
          · subst isNext
            exact ⟨safeMemory, usable, notAbandonedAfter⟩
          · exact (different (invariant.openUnique ⟨wasPresent, otherOpen.2⟩ isOpen otherLane)).elim
    · exact invariant.otherLane sameLane laneEvents same
  · intro other otherEntry otherOpen
    rcases entries_setEntry otherOpen.1 with ⟨same, isNext⟩ | ⟨_, wasPresent⟩
    · subst isNext
      rw [same, sameLane]
      exact invariant.storeLocks handle entry isOpen
    · exact invariant.storeLocks other otherEntry ⟨wasPresent, otherOpen.2⟩

section Publishing

theorem laneEvents_nil : LaneEvents world entry next [] where
  others := fun _ _ _ => Iff.rfl
  abandoned := fun _ => not_mem_nil
  failed := by
    intro other otherLane member
    cases member
  once := invariant.once
  handedOut := invariant.handedOut

theorem laneEvents_issued {seq : Nat} (fresh : ¬ held world.history entry.store.lane seq) :
    LaneEvents world entry next [.issued entry.store.lane seq handle] where
  others := by
    intro other different query
    simp [held_issued, different]
  abandoned := by
    intro other
    simp
  failed := by
    intro other otherLane member
    simp at member
  once := invariant.once.cons_issued rfl fresh
  handedOut := invariant.handedOut

theorem laneEvents_released {seq : Nat} :
    LaneEvents world entry next [.released entry.store.lane seq handle] where
  others := by
    intro other different query
    simp [held_released, different]
  abandoned := by
    intro other
    simp
  failed := by
    intro other otherLane member
    simp at member
  once := invariant.once.cons_other rfl
  handedOut := invariant.handedOut

theorem laneEvents_abandonFailed (failed : next.rotation = .abandonFailed) :
    LaneEvents world entry next [.abandonFailed entry.process entry.store.lane] where
  others := by
    intro other different query
    rw [singleton_append, held_other rfl rfl]
  abandoned := by
    intro other
    simp
  failed := by
    intro other otherLane member
    simp only [mem_singleton, abandonFailed.injEq] at member
    exact ⟨member.1, member.2, failed⟩
  once := invariant.once.cons_other rfl
  handedOut := invariant.handedOut

variable (isOpen : world.IsOpen handle entry)

include isOpen

/-- The two copies that an operation of an open store starts from. -/
theorem copies :
    SafeFor (held world.history entry.store.lane) entry.store.lane entry.store.state ∧
      entry.store.state.abandoned = false ∧
      abandoned entry.store.lane ∉ world.history ∧
      ∃ stored, world.file entry.store.lane = some (laneDocument stored) ∧
          SafeFor (held world.history entry.store.lane) entry.store.lane stored := by
  obtain ⟨present, safe, usable, notAbandoned⟩ :=
    (invariant.lanes entry.store.lane).store handle entry isOpen rfl
  obtain ⟨document, here⟩ := ne_none_iff_exists'.mp present
  obtain ⟨_, stored, same, safeStored, _⟩ := (invariant.lanes entry.store.lane).file document here
  refine ⟨safe, usable, notAbandoned, stored, ?_, safeStored⟩
  rw [here, same]

/-- Publish an operation that kept both copies safe. -/
theorem publishKept {events : List Event} {rotation : Rotation}
    (failedStays : entry.rotation = .abandonFailed → rotation = .abandonFailed)
    (laneEvents : LaneEvents world entry
        { entry with store := outcome.memory, rotation := rotation }
        events)
    (kept : Kept (held (events ++ world.history) entry.store.lane) entry.store outcome) :
    Invariant (world.publish handle { entry with rotation := rotation } outcome events) := by
  obtain ⟨_, usable, _, _⟩ := invariant.copies isOpen
  obtain ⟨stored, onDisk, safeDisk⟩ := kept.disk
  have sameLane : outcome.memory.lane = entry.store.lane := by
    rw [kept.sameStore]
  have notClosed : outcome.memory.closed = false := by
    rw [kept.sameStore]
    exact isOpen.2
  have stillUsable : outcome.memory.state.abandoned = false := kept.notAbandoned.trans usable
  simp only [publish, onDisk]
  exact invariant.update isOpen rfl sameLane notClosed failedStays laneEvents
      safeDisk kept.memory stillUsable

omit isOpen in
/-- A lane file may be written once more. -/
theorem rewriteFile : Invariant (world.setFile lane (world.file lane)) := by
  have sameFile : ∀ other,
      (world.setFile lane (world.file lane)).file other = world.file other := by
    intro other
    by_cases same : other = lane
    · subst same
      cases here : world.file other with
      | none => exact here
      | some document => exact file_setFile_same
    · exact file_setFile_other same
  refine { invariant with lanes := ?_, phases := ?_ }
  · intro other
    have before := invariant.lanes other
    exact before.transfer (sameFile other) rfl Iff.rfl (fun _ failed => failed) before.store
  · intro other process phase acquiring
    have before := invariant.phases acquiring
    refine { before with absent := ?_ }
    intro absentLane absent
    rw [sameFile]
    exact before.absent absentLane absent

omit isOpen in
/-- A refused operation of a closed store. -/
theorem publishRefused {failure : LaneError} (present : world.entries handle = some entry) :
    Invariant (world.publish handle entry
        (refuse failure entry.store (world.file entry.store.lane) : StoreOutcome α) []) := by
  have rewritten := @rewriteFile world entry.store.lane invariant
  rw [← @setEntry_same (world.setFile _ _) handle entry present] at rewritten
  exact rewritten

/-- An operation that issues a seq or fails. -/
theorem publishIssue {seqOf : α → Nat}
    (issues : Issues (held world.history entry.store.lane) entry.store seqOf outcome) :
    Invariant (world.publish handle entry outcome (issueEvents entry.store.lane handle seqOf
        outcome.answer)) := by
  unfold Issues at issues
  cases answered : outcome.answer with
  | error failure =>
    rw [answered] at issues
    exact invariant.publishKept isOpen id invariant.laneEvents_nil issues
  | ok value =>
    rw [answered] at issues
    obtain ⟨⟨fresh, _⟩, kept⟩ := issues
    have sameHeld : held (.issued entry.store.lane (seqOf value) handle ::
        world.history) entry.store.lane =
          fun query => query = seqOf value ∨ held world.history entry.store.lane query := by
      funext query
      simp [held_issued]
    rw [← sameHeld] at kept
    exact invariant.publishKept isOpen id (invariant.laneEvents_issued fresh) kept

theorem publishRelease (write : WriteOutcome) (seq : Nat) :
    Invariant (world.publish handle entry
        (entry.store.release write seq (world.file entry.store.lane))
        (releaseEvents entry.store.lane handle seq write (entry.store.release write seq
            (world.file entry.store.lane)).answer)) := by
  obtain ⟨safe, _, _, stored, onDisk, safeStored⟩ := invariant.copies isOpen
  have kept := release_kept onDisk safeStored safe write seq
  simp only [releaseEvents]
  by_cases visible : releaseVisible write
      (entry.store.release write seq (world.file entry.store.lane)).answer = true
  · simp only [visible, if_true] at kept ⊢
    have sameHeld : held (.released entry.store.lane seq handle :: world.history) entry.store.lane =
        fun query => query ≠ seq ∧ held world.history entry.store.lane query := by
      funext query
      simp [held_released]
    rw [← sameHeld] at kept
    exact invariant.publishKept isOpen id invariant.laneEvents_released kept
  · simp only [visible] at kept ⊢
    exact invariant.publishKept isOpen id invariant.laneEvents_nil kept

/-- An open store that is closed gives its lock back. -/
theorem retire
    (notFailed : entry.rotation ≠ .abandonFailed)
    (sameProcess : next.process = entry.process)
    (isClosed : next.store.closed = true) :
    Invariant ((world.setLock entry.store.lane none).setEntry handle (some next)) := by
  have wasOpen : ∀ other otherEntry, (world.setEntry handle (some next)).IsOpen other otherEntry →
      other ≠ handle ∧ world.IsOpen other otherEntry := by
    intro other otherEntry otherOpen
    rcases entries_setEntry otherOpen.1 with ⟨_, isNext⟩ | ⟨different, wasPresent⟩
    · have stillOpen := otherOpen.2
      rw [isNext, isClosed] at stillOpen
      cases stillOpen
    · exact ⟨different, wasPresent, otherOpen.2⟩
  suffices closed : Invariant (world.setEntry handle (some next)) by
    refine closed.setLock ⟨?_, fun _ _ _ => invariant.notAbsent_of_open isOpen⟩
    intro other otherEntry otherOpen same
    obtain ⟨different, otherWasOpen⟩ := wasOpen _ _ otherOpen
    exact different (invariant.openUnique otherWasOpen isOpen same)
  refine { invariant with
      lanes := ?_
      storeLocks := fun _ _ otherOpen => invariant.storeLocks _ _ (wasOpen _ _ otherOpen).2
      phases := fun acquiring => { invariant.phases acquiring with }
      failedAbandons := ?_
      entriesKnown := invariant.known_setEntry isOpen.1 sameProcess }
  · intro lane
    have before := invariant.lanes lane
    refine ⟨before.file, before.unused, ?_⟩
    intro other otherEntry otherOpen
    exact before.store other otherEntry (wasOpen _ _ otherOpen).2
  · intro other process lane here failed
    rcases invariant.failedAbandons other process lane here failed
      with excluded | ⟨witness, witnessEntry, witnessOpen, facts⟩
    · exact inl excluded
    have different : witness ≠ handle := by
      intro same
      subst same
      have sameEntry := witnessOpen.1.symm.trans isOpen.1
      cases sameEntry
      exact notFailed facts.2.2
    refine inr ⟨witness, witnessEntry, ⟨?_, witnessOpen.2⟩, facts⟩
    simpa [World.setEntry, different] using witnessOpen.1

omit isOpen

/-- A lane without users is marked abandoned. -/
theorem markAbandoned {marked : LaneFile} (unused : Unused world lane)
    (validLane : validClientLane lane = true) (isMarked : marked.abandoned = true)
    (safe : SafeFor (held world.history lane) lane marked) :
    Invariant ((world.setFile lane (some (laneDocument marked))).record [.abandoned lane]) := by
  have sameHeld : held (.abandoned lane :: world.history) = held world.history := held_other rfl rfl
  have failedBefore : ∀ process other, abandonFailed process other ∈
      abandoned lane :: world.history ↔ abandonFailed process other ∈ world.history := by
    intro process other
    simp
  refine { invariant with
      lanes := ?_
      phases := fun acquiring =>
        { invariant.phases_setFile (some (laneDocument marked)) unused.noAcquirer acquiring with }
      failedAbandons := ?_
      startedProcesses := ?_
      once := invariant.once.cons_other rfl
      handedOut := invariant.handedOut }
  · intro other
    have before := invariant.lanes other
    by_cases same : other = lane
    · subst same
      refine ⟨?_, ?_, ?_⟩
      · intro document here
        have written := here.symm.trans file_setFile_same
        cases written
        refine ⟨validLane, marked, rfl, ?_, fun _ => isMarked⟩
        rw [← sameHeld] at safe
        exact safe
      · intro missing
        have written := missing.symm.trans file_setFile_same
        cases written
      · intro handle entry isOpen sameLane
        exact (unused.noStore handle entry isOpen sameLane).elim
    · refine before.transfer (file_record.trans (file_setFile_other same))
        (congrFun sameHeld other) ?_
        (fun process => (failedBefore process other).mp) before.store
      simp [record, setFile, same]
  · intro other process otherLane here failed
    exact invariant.failedAbandons other process otherLane here ((failedBefore _ _).mp failed)
  · intro other otherLane failed
    exact invariant.startedProcesses other otherLane ((failedBefore _ _).mp failed)

/-- The first step of a rotation, whether `Abandon` succeeds or not. -/
theorem rotateAbandon
    (write : WriteOutcome)
    (isOpen : world.IsOpen handle entry)
    (idle : entry.rotation = .idle) :
    Invariant (world.rotateAbandon handle entry write) := by
  obtain ⟨safe, usable, _, stored, onDisk, safeStored⟩ := invariant.copies isOpen
  have spec := abandon_spec onDisk safeStored safe write isOpen.2
  simp only [World.rotateAbandon]
  cases answered : (entry.store.abandon write (world.file entry.store.lane)).answer with
  | error failure =>
    simp only [answered] at spec ⊢
    apply invariant.publishKept isOpen (fun _ => rfl)
    · exact invariant.laneEvents_abandonFailed rfl
    · rw [singleton_append, held_other rfl rfl]
      exact spec
  | ok value =>
    simp only [answered] at spec ⊢
    obtain ⟨isClosed, _, marked, written, isMarked, safeMarked⟩ := spec
    have notFailed : entry.rotation ≠ .abandonFailed := by
      simp [idle]
    have retired : Invariant ((world.setLock entry.store.lane none).setEntry handle (some
        { entry with
          store := (entry.store.abandon write (world.file entry.store.lane)).memory })) :=
      invariant.retire isOpen notFailed rfl isClosed
    have unused := retired.unlocked_unused (show
        ((world.setLock entry.store.lane none).setEntry handle _).locks entry.store.lane = none by
        simp [World.setLock, World.setEntry])
    have validLane : validClientLane entry.store.lane = true :=
      ((invariant.lanes entry.store.lane).file _ onDisk).1
    have marking := retired.markAbandoned unused validLane isMarked safeMarked
    simp only [publish, written]
    exact marking

end Publishing

/-! ## Exclusion, crashes and new processes -/

/-- The second step of a failed rotation. -/
theorem exclude
    {handle : Nat}
    {entry : Entry}
    {excluded : List Lane}
    (present : world.entries handle = some entry)
    (running : world.processes entry.process = some ⟨excluded, none⟩) :
    Invariant ((world.setProcess entry.process (some ⟨entry.store.lane :: excluded, none⟩)).setEntry
        handle (some { entry with rotation := .excluded })) := by
  have entries : ∀ other otherEntry, ((world.setProcess entry.process
      (some ⟨entry.store.lane :: excluded, none⟩)).setEntry handle
        (some { entry with rotation := .excluded })).entries other = some otherEntry →
      ∃ before, world.entries other = some before ∧ otherEntry.store = before.store := by
    intro other otherEntry here
    rcases entries_setEntry here with ⟨rfl, rfl⟩ | ⟨_, here⟩
    · exact ⟨entry, present, rfl⟩
    · exact ⟨otherEntry, here, rfl⟩
  have acquiring : ∀ other process phase, ((world.setProcess entry.process
      (some ⟨entry.store.lane :: excluded, none⟩)).setEntry handle
        (some { entry with rotation := .excluded })).Acquiring other process phase →
      world.Acquiring other process phase := by
    intro other process phase now
    obtain ⟨here, phases⟩ := now
    rcases processes_setProcess here with ⟨_, rfl⟩ | ⟨_, here⟩
    · cases phases
    · exact ⟨here, phases⟩
  refine { invariant with
      lanes := ?_
      storeLocks := ?_
      phases := fun now => { invariant.phases (acquiring _ _ _ now) with }
      failedAbandons := ?_
      processesKnown := ?_
      entriesKnown := invariant.known_setEntry present rfl }
  · intro lane
    have before := invariant.lanes lane
    refine ⟨before.file, before.unused, ?_⟩
    intro other otherEntry isOpen sameLane
    obtain ⟨old, wasPresent, sameStore⟩ := entries other otherEntry isOpen.1
    have stillOpen := isOpen.2
    rw [sameStore] at stillOpen sameLane ⊢
    exact before.store other old ⟨wasPresent, stillOpen⟩ sameLane
  · intro other otherEntry isOpen
    obtain ⟨old, wasPresent, sameStore⟩ := entries other otherEntry isOpen.1
    have stillOpen := isOpen.2
    rw [sameStore] at stillOpen ⊢
    exact invariant.storeLocks other old ⟨wasPresent, stillOpen⟩
  · intro other process lane here failed
    -- Every process keeps its excluded lanes; this one excludes the lane of its store.
    obtain ⟨before, wasRunning, kept, added⟩ : ∃ before, world.processes other = some before ∧
        before.excluded ⊆ process.excluded ∧
        (entry.process = other → entry.store.lane ∈ process.excluded) := by
      rcases processes_setProcess here with ⟨rfl, rfl⟩ | ⟨different, here⟩
      · exact ⟨_, running, subset_cons_self _ _, fun _ => mem_cons_self⟩
      · exact ⟨process, here, Subset.refl _, fun same => (different same.symm).elim⟩
    rcases invariant.failedAbandons other before lane wasRunning failed
      with wasExcluded | ⟨witness, witnessEntry, isOpen, facts⟩
    · exact inl (kept wasExcluded)
    by_cases isHandle : witness = handle
    · subst isHandle
      have sameEntry := isOpen.1.symm.trans present
      cases sameEntry
      rw [← facts.2.1]
      exact inl (added facts.1)
    · refine inr ⟨witness, witnessEntry, ⟨?_, isOpen.2⟩, facts⟩
      simpa [setEntry, setProcess, isHandle] using isOpen.1
  · intro other process here
    rcases processes_setProcess here with ⟨rfl, _⟩ | ⟨_, here⟩
    · exact invariant.processesKnown running
    · exact invariant.processesKnown here

theorem crash : Invariant (world.crash id) := by
  have entries : ∀ handle entry, (world.crash id).entries handle = some entry ↔
      world.entries handle = some entry ∧ entry.process ≠ id := by
    intro handle entry
    simp [World.crash]
  have processes : ∀ other process, (world.crash id).processes other = some process →
      other ≠ id ∧ world.processes other = some process := by
    intro other process here
    by_cases same : other = id
    · simp [World.crash, same] at here
    · simp only [World.crash, same, if_false] at here
      exact ⟨same, here⟩
  have opened : ∀ handle entry, (world.crash id).IsOpen handle entry ↔
      world.IsOpen handle entry ∧ entry.process ≠ id := by
    intro handle entry
    simp [World.IsOpen, entries, and_right_comm]
  have acquiring : ∀ other process phase, (world.crash id).Acquiring other process phase →
      other ≠ id ∧ world.Acquiring other process phase := by
    intro other process phase now
    obtain ⟨different, here⟩ := processes other process now.1
    exact ⟨different, here, now.2⟩
  refine { invariant with
      lanes := ?_
      storeLocks := ?_
      phases := ?_
      failedAbandons := ?_
      processesKnown := fun here => invariant.processesKnown (processes _ _ here).2
      entriesKnown := fun here => invariant.entriesKnown ((entries _ _).mp here).1 }
  · intro lane
    have before := invariant.lanes lane
    refine ⟨before.file, before.unused, ?_⟩
    intro handle entry isOpen
    exact before.store handle entry ((opened _ _).mp isOpen).1
  · intro handle entry isOpen
    obtain ⟨wasOpen, survives⟩ := (opened _ _).mp isOpen
    have owner := invariant.storeLocks handle entry wasOpen
    simp [World.crash, owner, wasOpen.1, survives]
  · intro other process phase now
    obtain ⟨different, wasAcquiring⟩ := acquiring other process phase now
    have before := invariant.phases wasAcquiring
    refine { before with locked := ?_ }
    intro lane locked
    simp [World.crash, before.locked lane locked, different]
  · intro other process lane here failed
    obtain ⟨different, wasRunning⟩ := processes other process here
    rcases invariant.failedAbandons other process lane wasRunning failed
      with excluded | ⟨witness, witnessEntry, isOpen, facts⟩
    · exact inl excluded
    · refine inr ⟨witness, witnessEntry, (opened _ _).mpr ⟨isOpen, ?_⟩, facts⟩
      rw [facts.1]
      exact different

theorem start : Invariant (world.step .start) := by
  have processes : ∀ other process, (world.step .start).processes other = some process →
      (other = world.started ∧ process = ⟨[], none⟩) ∨ world.processes other = some process := by
    intro other process here
    rcases processes_setProcess here with isNew | ⟨_, here⟩
    · exact inl isNew
    · exact inr here
  have acquiring : ∀ other process phase, (world.step .start).Acquiring other process phase →
      world.Acquiring other process phase := by
    intro other process phase now
    rcases processes other process now.1 with ⟨_, isNew⟩ | before
    · have running := now.2
      rw [isNew] at running
      cases running
    · exact ⟨before, now.2⟩
  refine { invariant with
      lanes := fun lane => { invariant.lanes lane with }
      phases := fun now => { invariant.phases (acquiring _ _ _ now) with }
      failedAbandons := ?_
      startedProcesses := ?_
      processesKnown := ?_
      entriesKnown := ?_ }
  · intro other process lane here failed
    rcases processes other process here with ⟨isNew, _⟩ | before
    · have earlier := invariant.startedProcesses other lane failed
      rw [isNew] at earlier
      exact (lt_irrefl _ earlier).elim
    · exact invariant.failedAbandons other process lane before failed
  · intro other lane failed
    exact Nat.lt_succ_of_lt (invariant.startedProcesses other lane failed)
  · intro other process here
    rcases processes other process here with ⟨rfl, _⟩ | before
    · exact Nat.lt_succ_self _
    · exact Nat.lt_succ_of_lt (invariant.processesKnown before)
  · intro handle entry here
    obtain ⟨handleKnown, processKnown⟩ := invariant.entriesKnown here
    exact ⟨handleKnown, Nat.lt_succ_of_lt processKnown⟩

end Invariant

end HouseGate.LanePool
