import HouseGate.IssueLedger
import HouseGate.SeqCounter

namespace HouseGate.SeqCounter

open DecimalText JsonDocument AscendingList StableStorage IssueLedger Ledger SeqCounter Nat

/-!
# Runs of one account's sequence counter

A world holds the two files, the owner of the exclusive lock and every counter
handle that was opened, in any process.  A run is a list of actions; each action
carries the outcome of its file replacement.  A process that dies in the middle
of an operation is an operation whose write failed, before or after the rename,
followed by a crash: in both cases nobody received its answer.

The history records the sequences that were successfully issued and the release
calls that reached the free-list file.  Its newest entry comes first.
-/

/-- How a successful call obtained its seq, with the watermark it saw. -/
inductive IssueKind where
  | recycled
  | fresh (watermark : Nat)
  | supplied (watermark : Nat)

/-- A number was issued or released. -/
inductive Event where
  | issued (seq : Nat) (kind : IssueKind)
  | released (seq : Nat)

/-- The files, their lock and all counters. -/
structure World where
  files : Files
  lockHolder : Option Nat
  counters : Nat → Option Counter
  opened : Nat
  history : List Event

/-- What processes may do, and how they may fail. -/
inductive Action where
  /-- `OpenSeqCounter`; its directory, lock or read calls may fail. -/
  | openCounter (ioFails : Bool)
  | reserve (handle : Nat) (write : WriteOutcome)
  | reserveSupplied (handle : Nat) (seq : UInt64) (write : WriteOutcome)
  | release (handle : Nat) (seq : UInt64) (write : WriteOutcome)
  | close (handle : Nat)
  | crash (handle : Nat)

def initial : World where
  files := { seq := none, free := none }
  lockHolder := none
  counters := fun _ => none
  opened := 0
  history := []

/-- `OpenSeqCounter` on a present state directory. -/
def openSeqCounter (world : World) (ioFails : Bool) : Except SeqError Counter :=
  if ioFails then
    .error .readFile
  else if world.lockHolder.isSome then
    .error .seqLocked
  else
    load world.files

namespace World

variable (world : World)

def setCounter (handle : Nat) (counter : Option Counter) : World := { world with
    counters := fun other =>
      if other = handle then counter else world.counters other }

/-- The lock after a handle gave it up. -/
def unlock (handle : Nat) : World := { world with
    lockHolder :=
      if world.lockHolder = some handle then none
      else world.lockHolder }

/-- Publish an operation's memory and files together with its events. -/
def publish (world : World) (handle : Nat) (outcome : CounterOutcome α)
    (events : List Event) : World :=
  { world.setCounter handle (some outcome.memory) with
    files := outcome.disk
    history := events ++ world.history }

/-- Events of a `Reserve` answer under the counter it was called on. -/
def reserveEvents (counter : Counter) : Except SeqError Nat → List Event
  | .ok seq => [.issued seq (if counter.free = [] then .fresh counter.last else .recycled)]
  | .error _ => []

def reserveSuppliedEvents (counter : Counter) (seq : Nat) : Except SeqError Unit → List Event
  | .ok () => [.issued seq (.supplied counter.last)]
  | .error _ => []

/-- A release counts once its list may be found by the next `load`. -/
def releaseEvents (write : WriteOutcome) (seq : Nat) : Except SeqError Bool → List Event
  | .ok _ => [.released seq]
  | .error .persistFree =>
    if write.replaced then [.released seq] else []
  | .error _ => []

def step : Action → World
  | .openCounter ioFails =>
    match openSeqCounter world ioFails with
    | .error _ => world
    | .ok counter =>
      { world.setCounter world.opened (some counter) with
        lockHolder := some world.opened
        opened := world.opened + 1 }
  | .reserve handle write =>
    match world.counters handle with
    | none => world
    | some counter =>
      let outcome := reserve write counter world.files
      world.publish handle outcome (reserveEvents counter outcome.answer)
  | .reserveSupplied handle seq write =>
    match world.counters handle with
    | none => world
    | some counter =>
      let outcome := reserveSupplied write seq.toNat counter world.files
      world.publish handle outcome (reserveSuppliedEvents counter seq.toNat outcome.answer)
  | .release handle seq write =>
    match world.counters handle with
    | none => world
    | some counter =>
      let outcome := release write seq.toNat counter world.files
      world.publish handle outcome (releaseEvents write seq.toNat outcome.answer)
  | .close handle =>
    match world.counters handle with
    | none => world
    | some counter =>
      if counter.closed then
        world
      else
        (world.setCounter handle (some { counter with closed := true })).unlock handle
  | .crash handle => (world.setCounter handle none).unlock handle

def run (actions : List Action) : World := actions.foldl step world

end World

/-! ## Outstanding sequences -/

def Event.issuedSeq : Event → Option Nat
  | .issued seq _ => some seq
  | .released _ => none

def Event.releasedSeq : Event → Option Nat
  | .issued _ _ => none
  | .released seq => some seq

def ledger : Ledger Event Nat where
  issued := Event.issuedSeq
  released := Event.releasedSeq
  exclusive := by
    intro event seq issue
    cases event with
    | issued other kind => rfl
    | released other => cases issue

variable {seq : Nat} {history : List Event}

@[simp] theorem outstanding_issued {query : Nat} {kind : IssueKind} :
    ledger.Outstanding (.issued seq kind :: history) query ↔
      query = seq ∨ ledger.Outstanding history query :=
  outstanding_cons_issued rfl

@[simp] theorem outstanding_released {seq query : Nat} :
    ledger.Outstanding (.released seq :: history) query ↔
      query ≠ seq ∧ ledger.Outstanding history query :=
  outstanding_cons_released rfl

/-- A seq lies above the watermark it was issued over, without wrapping. -/
def IssueKind.Above (seq : Nat) : IssueKind → Prop
  | .recycled => True
  | .fresh watermark => seq = watermark + 1
  | .supplied watermark => watermark < seq

/-- Every issued seq is a usable 64-bit value. -/
def IssuedInRange (history : List Event) : Prop :=
  ∀ seq kind, Event.issued seq kind ∈ history → 0 < seq ∧ seq < uint64Size ∧ kind.Above seq

variable {kind : IssueKind}

theorem IssuedInRange.cons_issued
    (inRange : IssuedInRange history) (usable : 0 < seq ∧ seq < uint64Size ∧ kind.Above seq) :
    IssuedInRange (.issued seq kind :: history) := by
  intro other otherKind member
  rcases List.mem_cons.mp member with same | earlier
  · cases same
    exact usable
  · exact inRange other otherKind earlier

/-! ## The invariant of reachable worlds -/

/-- The watermark file holds a value; an absent file holds zero. -/
def SeqFileHolds (file : Option Bytes) (last : Nat) : Prop :=
  (file = none ∧ last = 0) ∨ file = some (seqFileText last)

def FreeFileHolds (file : Option Json) (free : List Nat) : Prop :=
  (file = none ∧ free = []) ∨ file = some (freeListDocument free)

variable (history)

/-- A watermark and a free list from which no outstanding seq is issued. -/
structure Spares (last : Nat) (free : List Nat) : Prop where
  valid : FreeListValid last free
  outstandingBelow : ∀ seq, ledger.Outstanding history seq → seq ≤ last
  outstandingNotFree : ∀ seq, ledger.Outstanding history seq → seq ∉ free

/-- What the two files hold after a history, whoever wrote them. -/
structure Stored
    (files : Files)
    (last : Nat)
    (free : List Nat) : Prop
    extends Spares history last free where
  seqFile : SeqFileHolds files.seq last
  freeFile : FreeFileHolds files.free free
  fits : last < uint64Size
  once : ledger.IssuedOnce history
  inRange : IssuedInRange history

/--
An open counter against what the files hold.  The files may run ahead of
memory after a half-failed write, but the stored free list stays below the
watermark in memory, and that watermark is what the next write builds on.
-/
structure OpenCounter
    (storedLast : Nat)
    (storedFree : List Nat)
    (counter : Counter) : Prop
    extends Spares history counter.last counter.free where
  lastStored : counter.last ≤ storedLast
  storedBelow : ∀ seq ∈ storedFree, seq ≤ counter.last

/-- A counter and the files agree with one history. -/
def Consistent (files : Files) (counter : Counter) : Prop :=
  ∃ last free, Stored history files last free ∧ OpenCounter history last free counter

variable {history}

/--
Reachable worlds: the files are readable, every open counter holds the lock
and is consistent with them.
-/
structure Invariant (world : World) : Prop where
  stored : ∃ last free, Stored world.history world.files last free
  locked : ∀ handle counter,
      world.counters handle = some counter → counter.closed = false → world.lockHolder = some handle
  consistent : ∀ handle counter, world.counters handle = some counter →
      counter.closed = false → Consistent world.history world.files counter

variable {free : List Nat}

section Spares

variable {last : Nat} (spares : Spares history last free)

include spares

theorem Spares.raise {next : Nat} (raised : last ≤ next) : Spares history next free :=
  { spares with
    valid := spares.valid.mono raised
    outstandingBelow := fun seq outstanding =>
      (spares.outstandingBelow seq outstanding).trans raised }

/-- A seq above the watermark is neither outstanding nor free. -/
theorem Spares.issueAbove {next : Nat} (raised : last < next) :
    Spares (.issued next kind :: history) next free where
  valid := spares.valid.mono raised.le
  outstandingBelow := by
    intro seq outstanding
    rcases outstanding_issued.mp outstanding with same | earlier
    · exact le_of_eq same
    · exact le_trans (spares.outstandingBelow seq earlier) raised.le
  outstandingNotFree := by
    intro seq outstanding member
    rcases outstanding_issued.mp outstanding with same | earlier
    · subst same
      exact not_le.mpr raised (spares.valid.issued seq member).2
    · exact spares.outstandingNotFree seq earlier member

theorem Spares.forget : Spares (.released seq :: history) last free :=
  { spares with
    outstandingBelow := fun other outstanding =>
      spares.outstandingBelow other (outstanding_released.mp outstanding).2
    outstandingNotFree := fun other outstanding =>
      spares.outstandingNotFree other (outstanding_released.mp outstanding).2 }

omit spares in
/-- The head of the free list is issued from the rest of it. -/
theorem Spares.issueHead {rest : List Nat} (spares : Spares history last (seq :: rest)) :
    Spares (.issued seq kind :: history) last rest where
  valid := spares.valid.tail
  outstandingBelow := by
    intro other outstanding
    rcases outstanding_issued.mp outstanding with same | earlier
    · subst same
      exact (spares.valid.issued other List.mem_cons_self).2
    · exact spares.outstandingBelow other earlier
  outstandingNotFree := by
    intro other outstanding member
    rcases outstanding_issued.mp outstanding with same | earlier
    · subst same
      exact spares.valid.ascending.head_not_mem member
    · exact spares.outstandingNotFree other earlier (List.mem_cons_of_mem seq member)

end Spares

theorem Stored.load
    {files : Files}
    {last : Nat}
    (stored : Stored history files last free) :
    load files = .ok { last := last, free := free, closed := false } := by
  have lastLoaded : loadLast files.seq = .ok last := by
    rcases stored.seqFile with ⟨absent, zero⟩ | present
    · rw [absent, zero]
      rfl
    · rw [present]
      exact loadLast_text stored.fits
  have freeLoaded : loadFree last files.free = .ok free := by
    rcases stored.freeFile with ⟨absent, empty⟩ | present
    · rw [absent, empty]
      rfl
    · rw [present]
      exact loadFree_document stored.valid stored.fits
  simp [SeqCounter.load, lastLoaded, freeLoaded]

/-- What `load` reads is consistent with the files it was read from. -/
theorem Stored.openCounter
    {files : Files}
    {last : Nat}
    (stored : Stored history files last free) :
    OpenCounter history last free { last := last, free := free, closed := false } :=
  { stored.toSpares with
    lastStored := le_rfl
    storedBelow := fun seq member => (stored.valid.issued seq member).2 }

/-- The stored free list under the watermark in memory. -/
theorem OpenCounter.lowered
    {files : Files}
    {counter : Counter}
    {last : Nat}
    (isOpen : OpenCounter history last free counter)
    (stored : Stored history files last free) :
    Spares history counter.last free :=
  { stored with
    valid := { stored.valid with
      issued := fun seq member =>
        ⟨(stored.valid.issued seq member).1, isOpen.storedBelow seq member⟩ }
    outstandingBelow := isOpen.outstandingBelow }

/-! ## One write -/

section Writes

variable {files : Files} {counter : Counter}
  (consistent : Consistent history files counter)

include consistent

/-- A replaced free list, whether or not the caller learned about it. -/
theorem Consistent.replaceFree (valid : FreeListValid counter.last free)
    (notFree : ∀ seq, ledger.Outstanding history seq → seq ∉ free) :
    Consistent history { files with free := some (freeListDocument free) } counter := by
  obtain ⟨last, oldFree, stored, isOpen⟩ := consistent
  refine ⟨last, free, ?_, ?_⟩
  · exact { stored with
        freeFile := Or.inr rfl
        valid := valid.mono isOpen.lastStored
        outstandingNotFree := notFree }
  · refine { isOpen with storedBelow := ?_ }
    intro seq member
    exact (valid.issued seq member).2

/-- Memory follows a free list that was written. -/
theorem Consistent.adoptFree (valid : FreeListValid counter.last free)
    (notFree : ∀ seq, ledger.Outstanding history seq → seq ∉ free) :
    Consistent history files { counter with free := free } := by
  obtain ⟨last, oldFree, stored, isOpen⟩ := consistent
  exact ⟨last, oldFree, stored, { isOpen with
      valid := valid
      outstandingNotFree := notFree }⟩

/--
A replaced watermark.  It may lie below the stored one, when an earlier larger
write was visible although it failed; it never lies below memory's.
-/
theorem Consistent.replaceLast
    {next : Nat}
    (fits : next < uint64Size)
    (raised : counter.last ≤ next) :
    Consistent history { files with seq := some (seqFileText next) } counter := by
  obtain ⟨last, free, stored, isOpen⟩ := consistent
  refine ⟨next, free, ?_, ?_⟩
  · exact { stored with
        toSpares := (isOpen.lowered stored).raise raised
        seqFile := Or.inr rfl
        fits := fits }
  · exact { isOpen with lastStored := raised }

/-- Memory follows the watermark that was written, and issues it. -/
theorem Consistent.adoptAndIssueLast
    {next : Nat}
    (fits : next < uint64Size)
    (raised : counter.last < next)
    (above : kind.Above next) :
    Consistent (.issued next kind :: history)
      { files with seq := some (seqFileText next) }
      { counter with last := next } := by
  obtain ⟨last, free, stored, isOpen⟩ := consistent
  have fresh : ¬ ledger.Outstanding history next := by
    intro outstanding
    exact not_le.mpr raised (isOpen.outstandingBelow next outstanding)
  refine ⟨next, free, ?_, ?_⟩
  · exact { stored with
        toSpares := (isOpen.lowered stored).issueAbove raised
        seqFile := Or.inr rfl
        fits := fits
        once := stored.once.cons_issued rfl fresh
        inRange := stored.inRange.cons_issued ⟨zero_lt_of_lt raised, fits, above⟩ }
  · exact
      { toSpares := isOpen.toSpares.issueAbove raised
        lastStored := le_rfl
        storedBelow := fun seq member => (isOpen.storedBelow seq member).trans raised.le }

/-- The head of the free list is removed from both lists and issued. -/
theorem Consistent.issueFree {rest : List Nat} (available : counter.free = seq :: rest) :
    Consistent (.issued seq .recycled :: history)
      { files with free := some (freeListDocument rest) }
      { counter with free := rest } := by
  obtain ⟨last, free, stored, isOpen⟩ := consistent
  have spares := isOpen.toSpares
  rw [available] at spares
  have bounds := spares.valid.issued seq List.mem_cons_self
  refine ⟨last, rest, ?_, ?_⟩
  · exact { stored with
        toSpares := spares.issueHead.raise isOpen.lastStored
        freeFile := Or.inr rfl
        once := stored.once.cons_issued rfl fun outstanding =>
          spares.outstandingNotFree seq outstanding List.mem_cons_self
        inRange := stored.inRange.cons_issued
            ⟨bounds.1, lt_of_le_of_lt (le_trans bounds.2 isOpen.lastStored) stored.fits, trivial⟩ }
  · exact
      { toSpares := spares.issueHead
        lastStored := isOpen.lastStored
        storedBelow := fun other member => (spares.valid.tail.issued other member).2 }

/-- A release forgets one outstanding seq and changes nothing else. -/
theorem Consistent.forget {seq : Nat} : Consistent (.released seq :: history) files counter := by
  obtain ⟨last, free, stored, isOpen⟩ := consistent
  have inRange : IssuedInRange (.released seq :: history) := by
    intro other kind member
    rcases List.mem_cons.mp member with impossible | earlier
    · cases impossible
    · exact stored.inRange other kind earlier
  refine ⟨last, free, ?_, ?_⟩
  · exact { stored with
        toSpares := stored.toSpares.forget
        once := stored.once.cons_other rfl
        inRange := inRange }
  · exact { isOpen with toSpares := isOpen.toSpares.forget }

/-! ## One operation -/

theorem reserve_consistent (write : WriteOutcome) :
    let outcome := reserve write counter files
    Consistent (World.reserveEvents counter outcome.answer ++ history)
      outcome.disk outcome.memory := by
  by_cases isClosed : counter.closed = true
  · simpa [reserve, isClosed, refuse, World.reserveEvents] using consistent
  cases available : counter.free with
  | cons seq rest =>
    obtain ⟨last, free, stored, isOpen⟩ := id consistent
    have valid := isOpen.valid
    have notFree := isOpen.outstandingNotFree
    rw [available] at valid notFree
    have unnoticed := consistent.replaceFree valid.tail
        (fun other outstanding member => notFree other outstanding (by simp [member]))
    simp only [reserve, isClosed, available, World.reserveEvents]
    cases write with
    | stored => exact consistent.issueFree available
    | failedBeforeRename => exact consistent
    | failedAfterRename => exact unnoticed
  | nil =>
    by_cases exhausted : counter.last = maxUint64
    · simpa [reserve, isClosed, available, exhausted, refuse, World.reserveEvents] using consistent
    obtain ⟨last, free, stored, isOpen⟩ := id consistent
    have inRange : counter.last + 1 < uint64Size := by
      have fits := lt_of_le_of_lt isOpen.lastStored stored.fits
      simp only [maxUint64] at exhausted
      omega
    have noWrap : (counter.last + 1) % uint64Size = counter.last + 1 := mod_eq_of_lt inRange
    simp only [reserve, isClosed, available, exhausted, noWrap, World.reserveEvents]
    cases write with
    | stored =>
      have above : (IssueKind.fresh counter.last).Above (counter.last + 1) := rfl
      exact consistent.adoptAndIssueLast inRange (lt_succ_self _) above
    | failedBeforeRename => exact consistent
    | failedAfterRename => exact consistent.replaceLast inRange (le_succ _)

theorem reserveSupplied_consistent (write : WriteOutcome) (fits : seq < uint64Size) :
    let outcome := reserveSupplied write seq counter files
    Consistent (World.reserveSuppliedEvents counter seq outcome.answer ++ history)
      outcome.disk outcome.memory := by
  simp only [reserveSupplied]
  split
  · exact consistent
  split
  · exact consistent
  split
  · exact consistent
  rename_i reused
  have raised : counter.last < seq := Nat.lt_of_not_le reused
  cases write with
  | stored =>
    have above : (IssueKind.supplied counter.last).Above seq := raised
    exact consistent.adoptAndIssueLast fits raised above
  | failedBeforeRename => exact consistent
  | failedAfterRename => exact consistent.replaceLast fits raised.le

theorem release_consistent (write : WriteOutcome) (seq : Nat) :
    let outcome := release write seq counter files
    Consistent (World.releaseEvents write seq outcome.answer ++ history)
      outcome.disk outcome.memory := by
  by_cases isClosed : counter.closed = true
  · simpa [release, isClosed, refuse, World.releaseEvents] using consistent
  by_cases neverIssued : seq = 0 ∨ counter.last < seq
  · simpa [release, isClosed, neverIssued, refuse, World.releaseEvents] using consistent
  by_cases alreadyFree : counter.free[searchIndex counter.free seq]? = some seq
  · simpa [release, isClosed, neverIssued, alreadyFree, refuse,
      World.releaseEvents] using consistent
  obtain ⟨last, free, stored, isOpen⟩ := id consistent
  rw [not_or] at neverIssued
  have notFree : seq ∉ counter.free := by
    intro member
    exact alreadyFree ((getElem?_searchIndex_eq_some_iff isOpen.valid.ascending).mpr member)
  have valid := isOpen.valid.release (pos_of_ne_zero neverIssued.1)
      (Nat.le_of_not_lt neverIssued.2) notFree
  -- After the event only the other holders matter, and none of them
  -- is in the list that the release builds on.
  have othersNotFree : ∀ other, ledger.Outstanding (.released seq :: history) other →
      other ∉ freeAfterRelease counter.free seq := by
    intro other outstanding member
    obtain ⟨different, outstanding⟩ := outstanding_released.mp outstanding
    rcases mem_freeAfterRelease member with same | inFree
    · exact different same
    · exact isOpen.outstandingNotFree other outstanding inFree
  have visible := (consistent.forget).replaceFree valid othersNotFree
  simp only [release, isClosed, neverIssued, alreadyFree, or_self]
  cases write with
  | stored => exact visible.adoptFree valid othersNotFree
  | failedBeforeRename => exact consistent
  | failedAfterRename => exact visible

end Writes

/-! ## Whole runs -/

theorem invariant_initial : Invariant initial where
  stored :=
    ⟨0, [],
      { seqFile := Or.inl ⟨rfl, rfl⟩
        freeFile := Or.inl ⟨rfl, rfl⟩
        fits := by decide
        valid := .nil 0
        outstandingBelow := fun _ impossible => impossible.elim
        outstandingNotFree := fun _ impossible => impossible.elim
        once := trivial
        inRange := fun _ _ member => by cases member }⟩
  locked := by
    intro handle counter absent
    cases absent
  consistent := by
    intro handle counter absent
    cases absent

variable {handle : Nat}

namespace Invariant

variable {world : World} {counter : Counter}

/-- A refused operation leaves the world as it was. -/
theorem publish_refuse {failure : SeqError} (present : world.counters handle = some counter) :
    world.publish handle (refuse failure counter world.files : CounterOutcome α) [] = world := by
  have same : (fun other =>
      if other = handle then some counter
      else world.counters other) = world.counters := by
    funext other
    split
    · rename_i here
      rw [here, present]
    · rfl
  simp [World.publish, World.setCounter, refuse, same]

/-- One counter is open and holds the lock. -/
theorem of_alone (holder : world.lockHolder = some handle)
    (consistent : Consistent world.history world.files counter)
    (alone : ∀ other otherCounter, world.counters other = some otherCounter →
        otherCounter.closed = false → other = handle ∧ otherCounter = counter) :
    Invariant world where
  stored := by
    obtain ⟨last, free, stored, _⟩ := consistent
    exact ⟨last, free, stored⟩
  locked := by
    intro other otherCounter present isOpen
    rw [(alone other otherCounter present isOpen).1]
    exact holder
  consistent := by
    intro other otherCounter present isOpen
    rw [(alone other otherCounter present isOpen).2]
    exact consistent

variable (invariant : Invariant world)

include invariant

/--
A finished operation.  A closed counter refuses it, and an open one holds the
lock alone.
-/
theorem publish {outcome : CounterOutcome α} {events : List Event}
    (present : world.counters handle = some counter)
    (refused :
      counter.closed = true → outcome = refuse .seqClosed counter world.files ∧ events = [])
    (result : Consistent world.history world.files counter →
        Consistent (events ++ world.history) outcome.disk outcome.memory) :
    Invariant (world.publish handle outcome events) := by
  by_cases isClosed : counter.closed = true
  · obtain ⟨rfl, rfl⟩ := refused isClosed
    rw [publish_refuse present]
    exact invariant
  have isOpen := Bool.eq_false_of_not_eq_true isClosed
  have result := result (invariant.consistent handle counter present isOpen)
  have holder := invariant.locked handle counter present isOpen
  refine @of_alone handle _ outcome.memory holder result ?_
  intro other otherCounter otherPresent otherOpen
  by_cases same : other = handle
  · simp only [World.publish, World.setCounter, same, if_true, Option.some.injEq] at otherPresent
    exact ⟨same, otherPresent.symm⟩
  · simp only [World.publish, World.setCounter, same, if_false] at otherPresent
    have otherHolder := invariant.locked other otherCounter otherPresent otherOpen
    rw [holder] at otherHolder
    exact absurd (Option.some.inj otherHolder).symm same

/-- A handle that stops being open gives up its lock. -/
theorem retire {retired : Option Counter}
    (notOpen : ∀ counter, retired = some counter → counter.closed = true) :
    Invariant ((world.setCounter handle retired).unlock handle) := by
  have wasPresent : ∀ other counter,
      (world.setCounter handle retired).counters other = some counter →
      counter.closed = false → other ≠ handle ∧ world.counters other = some counter := by
    intro other counter present isOpen
    by_cases same : other = handle
    · simp only [World.setCounter, same, if_true] at present
      rw [notOpen counter present] at isOpen
      cases isOpen
    · simp only [World.setCounter, same, if_false] at present
      exact ⟨same, present⟩
  refine ⟨invariant.stored, ?_, ?_⟩
  · intro other counter present isOpen
    have before := wasPresent other counter present isOpen
    have holder := invariant.locked other counter before.2 isOpen
    simp [World.unlock, World.setCounter, holder, before.1]
  · intro other counter present isOpen
    have before := wasPresent other counter present isOpen
    exact invariant.consistent other counter before.2 isOpen

theorem openCounter {ioFails : Bool} (opened : openSeqCounter world ioFails = .ok counter) :
    Invariant { world.setCounter world.opened (some counter) with
        lockHolder := some world.opened
        opened := world.opened + 1 } := by
  obtain ⟨last, free, stored⟩ := invariant.stored
  simp only [openSeqCounter] at opened
  split at opened
  · cases opened
  split at opened
  · cases opened
  rename_i unlocked
  rw [stored.load] at opened
  cases opened
  refine of_alone rfl ⟨last, free, stored, stored.openCounter⟩ ?_
  intro other otherCounter present isOpen
  by_cases same : other = world.opened
  · simp only [World.setCounter, same, if_true, Option.some.injEq] at present
    exact ⟨same, present.symm⟩
  · simp only [World.setCounter, same, if_false] at present
    rw [invariant.locked other otherCounter present isOpen] at unlocked
    exact absurd rfl unlocked

theorem step (action : Action) : Invariant (world.step action) := by
  cases action with
  | openCounter ioFails =>
    simp only [World.step]
    cases opened : openSeqCounter world ioFails with
    | error failure => exact invariant
    | ok counter => exact invariant.openCounter opened
  | reserve handle write =>
    simp only [World.step]
    cases present : world.counters handle with
    | none => exact invariant
    | some counter =>
      refine invariant.publish present ?_ fun consistent => reserve_consistent consistent write
      intro isClosed
      simp [reserve, isClosed, World.reserveEvents]
  | reserveSupplied handle seq write =>
    simp only [World.step]
    cases present : world.counters handle with
    | none => exact invariant
    | some counter =>
      refine invariant.publish present ?_ fun consistent =>
        reserveSupplied_consistent consistent write seq.toNat_lt
      intro isClosed
      simp [reserveSupplied, isClosed, World.reserveSuppliedEvents]
  | release handle seq write =>
    simp only [World.step]
    cases present : world.counters handle with
    | none => exact invariant
    | some counter =>
      refine invariant.publish present ?_ fun consistent =>
        release_consistent consistent write seq.toNat
      intro isClosed
      simp [release, isClosed, World.releaseEvents]
  | close handle =>
    simp only [World.step]
    cases present : world.counters handle with
    | none => exact invariant
    | some counter =>
      by_cases isClosed : counter.closed = true
      · simpa [isClosed] using invariant
      · simp only [isClosed]
        apply invariant.retire
        rintro retired ⟨⟩
        rfl
  | crash handle =>
    apply invariant.retire
    rintro retired ⟨⟩

theorem run (actions : List Action) : Invariant (world.run actions) := by
  induction actions generalizing world with
  | nil => exact invariant
  | cons action rest inductionHypothesis => exact inductionHypothesis (invariant.step action)

end Invariant

/--
In every run, a seq is issued again only after a release of it reached the
files, an issued seq is positive and lies above the watermark it was issued
over, and the files are accepted by the next `load`.
-/
theorem issued_once_and_loadable (actions : List Action) :
    (∀ seq kind otherKind later between earlier,
      (initial.run actions).history = later ++ .issued seq kind ::
          (between ++ .issued seq otherKind :: earlier) →
        Event.released seq ∈ between) ∧
    (∀ seq kind, Event.issued seq kind ∈ (initial.run actions).history →
        0 < seq ∧ seq < uint64Size ∧ kind.Above seq) ∧
    (∃ counter, load (initial.run actions).files = .ok counter) := by
  have invariant := invariant_initial.run actions
  obtain ⟨last, free, stored⟩ := invariant.stored
  refine ⟨?_, ?_, ⟨_, stored.load⟩⟩
  · intro seq kind otherKind later between earlier split
    have once := stored.once
    rw [split] at once
    obtain ⟨middle, member, release⟩ := once.released_between rfl rfl
    cases middle with
    | issued other middleKind => cases release
    | released other =>
      cases release
      exact member
  · exact stored.inRange

/-- Wherever a run stops, the next `load` issues no seq that is still outstanding. -/
theorem reload_spares_outstanding (actions : List Action) :
    ∃ counter, load (initial.run actions).files = .ok counter ∧
      ∀ seq, ledger.Outstanding (initial.run actions).history seq →
        seq ≤ counter.last ∧ seq ∉ counter.free := by
  obtain ⟨last, free, stored⟩ := (invariant_initial.run actions).stored
  refine ⟨_, stored.load, ?_⟩
  exact fun seq out => ⟨stored.outstandingBelow seq out, stored.outstandingNotFree seq out⟩

end HouseGate.SeqCounter
