import HouseGate.LanePoolRuns
import HouseGate.LaneSelector

namespace HouseGate.LaneSelection

open DecimalText LanePool LaneSelector StableStorage List World Selector

/-!
# Lane selection over a shared pool

One selector, the pool behind it and the other processes of the lanes
directory.  A round of `pick` holds the selector's mutex, over `Acquire` too,
so a lane that it acquires was handed out during the round.  The stores of the
selector's process are rotated away and closed by the selector only; the seqs
they issue play no part here.
-/

/-- What the selector decided. -/
inductive Event where
  | picked (lane : SeqLane)
  | rotated (lane : Lane)
  | pinned (reason : Bytes)
  deriving DecidableEq

/-- Every pick that returned, with its lane and whether it is done. -/
structure State where
  world : World
  selector : Selector
  picks : List (Lane × Bool)
  history : List Event

/-- What its caller and the pool may do. -/
inductive Step where
  | pool (actions : List Action)
  | pick (lanesEnabled : Bool) (actions : List Action) (ended : Bool)
  | done (number : Nat)
  | rotate (lane : Lane) (write : WriteOutcome)
  | pinLegacy (reason : Bytes)
  | close

section Selection

variable (id : Nat)

/-- An action that is not one on a store of the selector's process. -/
def foreign (world : World) : Action → Bool
  | .reserve handle _ | .reserveSupplied handle _ _ | .release handle _ _
  | .rotateAbandon handle _ | .rotateExclude handle | .rotateClose handle
  | .close handle => (world.entries handle).all (·.process != id)
  | .crash process => process != id
  | _ => true

def runForeign (world : World) (actions : List Action) : World := actions.foldl (fun world action =>
    if foreign id world action then world.step action else world)
    world

/-- What `Acquire` of the selector's process returned between two worlds. -/
def acquired (before after : World) : Except PickError ClientLane :=
  let events := after.history.take (after.history.length - before.history.length)
  let handed : LanePool.Event → Option ClientLane
    | .handedOut lane process handle _ =>
      if process = id then some ⟨handle, lane⟩ else none
    | _ => none
  match events.findSome? handed with
  | some held => .ok held
  | none => .error .acquire

/-- What `rotate` does to the store of its lane. -/
def rotation (held : ClientLane) (write : WriteOutcome) : List Action :=
  [.rotateAbandon held.store write, .rotateExclude held.store, .rotateClose held.store]

namespace State

def initial (world : World) (mode : LaneMode) (maxInflight : Nat) : State :=
  ⟨world, newLaneSelector mode maxInflight, [], []⟩

/-- The done function of a pick runs once. -/
def step (state : State) : Step → State
  | .pool actions => { state with world := runForeign id state.world actions }
  | .pick lanesEnabled actions ended =>
    let world := runForeign id state.world actions
    match state.selector.pick lanesEnabled
        (acquired id state.world world) ended with
    | (selector, .picked lane) =>
      { world
        selector
        picks := state.picks ++ [(lane.lane, false)]
        history := .picked lane :: state.history }
    | (selector, _) => { state with world, selector }
  | .done number =>
    match state.picks[number]? with
    | some (lane, false) =>
      { state with
        selector := state.selector.leave lane
        picks := state.picks.set number (lane, true) }
    | _ => state
  | .rotate lane write =>
    let history := .rotated lane :: state.history
    match state.selector.rotate lane with
    | (_, none) => { state with history }
    | (selector, some held) =>
      { state with
        world := state.world.run (rotation held write)
        selector
        history }
  | .pinLegacy reason =>
    { state with
      selector := state.selector.pinLegacy reason
      history := .pinned reason :: state.history }
  | .close =>
    { state with
      world := state.selector.current.elim state.world (state.world.step <| .close ·.store)
      selector := state.selector.close }

def run (state : State) (steps : List Step) : State := steps.foldl (step id) state

def outstanding (state : State) (lane : Lane) : Nat := state.picks.count (lane, false)

end State

/-- Whether a pick returned a client lane. -/
def returned (lane : Lane) (history : List Event) : Bool := history.any fun event =>
    match event with
    | .picked (.client held) => held.lane = lane
    | _ => false

/-- The client lanes that were rotated after a pick had returned them. -/
def rotatedAway : List Event → List Lane
  | [] => []
  | .rotated lane :: earlier =>
    if returned lane earlier then lane :: rotatedAway earlier
    else rotatedAway earlier
  | _ :: earlier => rotatedAway earlier

/-- The reason of the last `pinLegacy`. -/
def lastPin : List Event → Bytes
  | [] => []
  | .pinned reason :: _ => reason
  | _ :: earlier => lastPin earlier

/-! ## What others do to the pool -/

/-- An open store of the selector's process that is not under rotation. -/
def Own (world : World) (held : ClientLane) : Prop :=
  ∃ state, world.entries held.store = some ⟨id, ⟨held.lane, state, false, false⟩, .idle⟩

/-- What a pool action means to the selector's process. -/
structure Beside (before after : World) (events : List LanePool.Event) : Prop where
  history : after.history = events ++ before.history
  failed : ∀ lane, .abandonFailed id lane ∉ events
  owned : ∀ held, Own id before held → Own id after held
  handed :
    ∀ lane handle reason, .handedOut lane id handle reason ∈ events → Own id after ⟨handle, lane⟩

/-- Whether an event is about the selector's process. -/
def mentions : LanePool.Event → Bool
  | .handedOut _ process _ _ | .abandonFailed process _ => process == id
  | _ => false

variable {id} {world after : World} {events : List LanePool.Event} {held : ClientLane} {lane : Lane}

theorem Beside.quiet (history : after.history = events ++ world.history)
    (quiet : ∀ event ∈ events, mentions id event = false)
    (entries : ∀ handle entry, world.entries handle = some entry →
        entry.process = id → after.entries handle = some entry) :
    Beside id world after events where
  history := history
  failed := by
    intro lane member
    simpa [mentions] using quiet _ member
  owned := by
    rintro held ⟨state, present⟩
    exact ⟨state, entries held.store _ present rfl⟩
  handed := by
    intro lane handle reason member
    simpa [mentions] using quiet _ member

theorem Beside.same
    (history : after.history = world.history)
    (entries : after.entries = world.entries) :
    Beside id world after [] :=
  .quiet history (forall_mem_nil _) fun handle entry present _ => by
    rw [entries, present]

/-- A change of a store of another process. -/
theorem Beside.setEntry
    {handle : Nat}
    {entry : Entry}
    {next : Option Entry}
    (present : world.entries handle = some entry)
    (other : entry.process ≠ id)
    (history : after.history = events ++ world.history)
    (quiet : ∀ event ∈ events, mentions id event = false)
    (entries : after.entries = fun other =>
        if other = handle then next else world.entries other) :
    Beside id world after events := by
  refine .quiet history quiet fun own ownEntry ownPresent isOwn => ?_
  have different : own ≠ handle := by
    rintro rfl
    cases present.symm.trans ownPresent
    exact other isOwn
  rw [entries]
  exact (if_neg different).trans ownPresent

theorem Beside.handOut
    {base : World}
    {process : Nat}
    {state : LaneFile}
    {reason : AcquireReason}
    (history : base.history = world.history)
    (entries : base.entries = world.entries)
    (free : world.entries base.acquired = none) :
    Beside id world (base.handOut process lane state reason)
      [.handedOut lane process base.acquired reason] where
  history := congrArg _ history
  failed := by simp
  owned := by
    rintro held ⟨state, present⟩
    have different : held.store ≠ base.acquired := by
      intro same
      rw [same, free] at present
      cases present
    refine ⟨state, ?_⟩
    simpa [World.handOut, World.record, World.setEntry, World.setLock,
      different, entries] using present
  handed := by
    intro other handle given member
    cases mem_singleton.mp member
    exact ⟨state, if_pos rfl⟩

theorem Beside.trans
    {last : World}
    {later : List LanePool.Event}
    (first : Beside id world after events)
    (second : Beside id after last later) :
    Beside id world last (later ++ events) where
  history := by
    rw [second.history, first.history, append_assoc]
  failed := by
    intro lane member
    rcases mem_append.mp member with new | old
    · exact second.failed lane new
    · exact first.failed lane old
  owned := fun held own => second.owned held (first.owned held own)
  handed := by
    intro lane handle reason member
    rcases mem_append.mp member with new | old
    · exact second.handed lane handle reason new
    · exact second.owned _ (first.handed lane handle reason old)

theorem beside_acquireStep
    (invariant : LanePool.Invariant world)
    (process : Nat)
    (running : Process)
    (input : AcquireInput)
    (phase : AcquirePhase) :
    ∃ events, Beside id world (world.acquireStep process running input phase) events := by
  have free : world.entries world.acquired = none := by
    by_contra taken
    obtain ⟨entry, present⟩ := Option.ne_none_iff_exists'.mp taken
    exact (invariant.entriesKnown present).1.ne rfl
  unfold acquireStep
  split
  · exact ⟨_, .same rfl rfl⟩
  · split_ifs <;> exact ⟨_, .same rfl rfl⟩
  · dsimp only
    split
    · exact ⟨_, .same rfl rfl⟩
    · split_ifs
      · exact ⟨_, .same rfl rfl⟩
      · exact ⟨_, .handOut rfl rfl free⟩
  · dsimp only
    split_ifs <;> exact ⟨_, .same rfl rfl⟩
  · split_ifs <;> exact ⟨_, .same rfl rfl⟩
  · split
    · exact ⟨_, .handOut rfl rfl free⟩
    · exact ⟨_, .same rfl rfl⟩

theorem beside_step {action : Action} (invariant : LanePool.Invariant world)
    (allowed : foreign id world action = true) :
    ∃ events, Beside id world (world.step action) events := by
  have others : ∀ {handle entry}, (world.entries handle).all (·.process != id) = true →
      world.entries handle = some entry → entry.process ≠ id := by
    intro handle entry every present
    simpa [present] using every
  cases action with
  | start => exact ⟨_, .same rfl rfl⟩
  | acquire process ioFails =>
    simp only [step]
    split
    · split <;> exact ⟨_, .same rfl rfl⟩
    · exact ⟨_, .same rfl rfl⟩
  | acquireStep process input =>
    simp only [step]
    split
    · exact beside_acquireStep invariant process _ input _
    · exact ⟨_, .same rfl rfl⟩
  | reserve handle write | reserveSupplied handle seq write =>
    simp only [step]
    split
    · exact ⟨_, .same rfl rfl⟩
    · rename_i entry present
      refine ⟨_, .setEntry present (others allowed present) rfl ?_ rfl⟩
      unfold issueEvents
      split <;> simp [mentions]
  | release handle seq write =>
    simp only [step]
    split
    · exact ⟨_, .same rfl rfl⟩
    · rename_i entry present
      refine ⟨_, .setEntry present (others allowed present) rfl ?_ rfl⟩
      unfold releaseEvents
      split <;> simp [mentions]
  | rotateAbandon handle write =>
    simp only [step]
    split
    · exact ⟨_, .same rfl rfl⟩
    rename_i entry present
    have other := others allowed present
    split
    · exact ⟨_, .same rfl rfl⟩
    · unfold rotateAbandon
      dsimp only
      split <;>
        exact ⟨_, .setEntry present other rfl (by simp [mentions, other]) rfl⟩
  | rotateExclude handle | rotateClose handle | close handle =>
    simp only [step]
    split
    · exact ⟨_, .same rfl rfl⟩
    rename_i entry present
    have other := others allowed present
    split <;> first
      | exact ⟨_, .same rfl rfl⟩
      | exact ⟨[], .setEntry present other rfl (by simp) rfl⟩
  | crash process =>
    refine ⟨[], .quiet rfl (by simp) fun handle entry present own => ?_⟩
    have survives : entry.process ≠ process := by
      rw [own]
      exact Ne.symm (by simpa [foreign] using allowed)
    simp [step, crash, present, survives]

variable (id) in
theorem beside_runForeign (invariant : LanePool.Invariant world) (actions : List Action) :
    LanePool.Invariant (runForeign id world actions) ∧
      ∃ events, Beside id world (runForeign id world actions) events := by
  induction actions generalizing world with
  | nil => exact ⟨invariant, [], .same rfl rfl⟩
  | cons action rest inductionHypothesis =>
    simp only [runForeign, foldl_cons]
    split
    · rename_i allowed
      obtain ⟨events, first⟩ := beside_step invariant allowed
      obtain ⟨kept, later, second⟩ := inductionHypothesis (invariant.step action)
      exact ⟨kept, _, first.trans second⟩
    · exact inductionHypothesis invariant

theorem handedOut_of_acquired
    (beside : Beside id world after events) (found : acquired id world after = .ok held) :
    ∃ reason, .handedOut held.lane id held.store reason ∈ events := by
  have recent : after.history.take (after.history.length - world.history.length) = events := by
    rw [beside.history, length_append, Nat.add_sub_cancel, take_left]
  unfold acquired at found
  rw [recent] at found
  dsimp only at found
  split at found
  · rename_i first isFirst
    cases found
    obtain ⟨event, member, handed⟩ := exists_of_findSome?_eq_some isFirst
    cases event with
    | handedOut lane process handle reason =>
      dsimp only at handed
      split at handed
      · rename_i own
        cases handed
        exact ⟨reason, own ▸ member⟩
      · cases handed
    | _ => cases handed
  · cases found

/-! ## The invariant -/

variable (id) in
/-- A lane that the pool will not hand out to the selector again. -/
def Retired (world : World) (lane : Lane) : Prop :=
  .abandoned lane ∈ world.history ∨ .abandonFailed id lane ∈ world.history

theorem Retired.mono (retired : Retired id world lane) (grows : world.history ⊆ after.history) :
    Retired id after lane :=
  retired.imp (grows ·) (grows ·)

theorem Beside.grows (beside : Beside id world after events) : world.history ⊆ after.history := by
  rw [beside.history]
  exact subset_append_right _ _

/-- A lane that its process may still pick. -/
structure Usable
    (id : Nat)
    (world : World)
    (held : ClientLane) : Prop where
  own : Own id world held
  notFailed : .abandonFailed id held.lane ∉ world.history

theorem Usable.not_retired (usable : Usable id world held) (invariant : Invariant world) :
    ¬Retired id world held.lane := by
  obtain ⟨state, present⟩ := usable.own
  rintro (abandoned | failed)
  · exact ((invariant.lanes held.lane).store _ _ ⟨present, rfl⟩ rfl).2.2.2 abandoned
  · exact usable.notFailed failed

theorem Beside.usable (beside : Beside id world after events) (usable : Usable id world held) :
    Usable id after held := by
  refine ⟨beside.owned _ usable.own, ?_⟩
  rw [beside.history, mem_append, not_or]
  exact ⟨beside.failed _, usable.notFailed⟩

theorem Beside.usable_of_acquired
    (beside : Beside id world after events) (invariant : LanePool.Invariant after)
    (found : acquired id world after = .ok held) :
    Usable id after held := by
  obtain ⟨reason, member⟩ := handedOut_of_acquired beside found
  refine ⟨beside.handed _ _ reason member, ?_⟩
  obtain ⟨later, earlier, rfl⟩ := append_of_mem member
  have safely := invariant.handedOut
  rw [beside.history, append_assoc, cons_append] at safely
  have notBefore := safely.of_append.1.2
  rw [beside.history]
  intro failed
  rcases mem_append.mp failed with new | old
  · exact beside.failed _ new
  · exact notBefore (mem_append_right _ old)

/-- A rotation retires the lane, whether or not its file could be written. -/
theorem retired_rotate (own : Own id world held) (write : WriteOutcome) :
    let rotated := world.run (rotation held write)
    world.history ⊆ rotated.history ∧ Retired id rotated held.lane := by
  obtain ⟨state, present⟩ := own
  have excludes :
      ∀ world : World, (world.step (.rotateExclude held.store)).history = world.history := by
    intro world
    simp only [step]
    split
    · rfl
    · split <;> rfl
  have closes :
      ∀ world : World, (world.step (.rotateClose held.store)).history = world.history := by
    intro world
    simp only [step]
    split
    · rfl
    · split <;> rfl
  simp only [rotation, run, foldl_cons, foldl_nil, Retired, closes, excludes]
  rw [step, present]
  simp only [Bool.false_eq_true, ne_eq, not_true_eq_false, or_self, if_false, rotateAbandon]
  split
  · exact ⟨subset_cons_self _ _, .inl mem_cons_self⟩
  · exact ⟨subset_cons_self _ _, .inr mem_cons_self⟩

/-- No pick returns a client lane under a pin or after its rotation. -/
def PickedSafely (history : List Event) : Prop := ∀ later held earlier,
    history = later ++ .picked (.client held) :: earlier →
    lastPin earlier = [] ∧ held.lane ∉ rotatedAway earlier

theorem PickedSafely.cons
    {history : List Event}
    {event : Event}
    (safely : PickedSafely history)
    (first : ∀ held,
        event = .picked (.client held) → lastPin history = [] ∧ held.lane ∉ rotatedAway history) :
    PickedSafely (event :: history) := by
  intro later held earlier split
  cases later with
  | nil =>
    cases split
    exact first held rfl
  | cons newest later =>
    cases split
    exact safely later held earlier rfl

/-- The counts agree with the statements outstanding. -/
structure Invariant (id maxInflight : Nat) (state : State) : Prop where
  world : LanePool.Invariant state.world
  bound : state.selector.maxInflight = maxInflight
  counted : ∀ lane, state.selector.inflight lane = state.outstanding lane
  capped : ∀ lane, lane ≠ [] → 0 < maxInflight → state.outstanding lane ≤ maxInflight
  pin : state.selector.legacyPin = lastPin state.history
  current : ∀ held, state.selector.current = some held → Usable id state.world held
  returned : state.selector.closed = false → ∀ lane,
      returned lane state.history = true →
      state.selector.current.map (·.lane) = some lane ∨ Retired id state.world lane
  away :
    state.selector.closed = false → ∀ lane ∈ rotatedAway state.history, Retired id state.world lane
  picked : PickedSafely state.history

variable {maxInflight : Nat} {state : State}

variable (id) in
/-- What one call of a done function frees. -/
theorem outstanding_done
    (state : State)
    (number : Nat)
    (lane : Lane) :
    state.outstanding lane = (state.step id (.done number)).outstanding lane +
        if state.picks[number]? = some (lane, false) then 1 else 0 := by
  rcases isPick : state.picks[number]? with _ | ⟨own, _ | _⟩
  · simp [State.step, isPick]
  · obtain ⟨inRange, same⟩ := List.getElem?_eq_some_iff.mp isPick
    simp only [State.step, isPick, State.outstanding, count_set inRange, same]
    grind
  · simp [State.step, isPick]

theorem done_done (state : State) (number : Nat) :
    (state.step id (.done number)).step id (.done number) = state.step id (.done number) := by
  rcases isPick : state.picks[number]? with _ | ⟨lane, _ | _⟩
  · simp [State.step, isPick]
  · obtain ⟨inRange, -⟩ := List.getElem?_eq_some_iff.mp isPick
    simp [State.step, isPick, getElem?_set_self inRange]
  · simp [State.step, isPick]

namespace Invariant

variable (invariant : Invariant id maxInflight state)

include invariant

theorem beside
    (kept : LanePool.Invariant after)
    (beside : Beside id state.world after events) :
    Invariant id maxInflight { state with world := after } :=
  { invariant with
    world := kept
    current := fun held isCurrent => beside.usable (invariant.current held isCurrent)
    returned := fun isOpen lane was =>
      (invariant.returned isOpen lane was).imp_right (·.mono beside.grows)
    away := fun isOpen lane was => (invariant.away isOpen lane was).mono beside.grows }

theorem acquire
    (noCurrent : state.selector.current = none)
    (usable : Usable id state.world held) :
    Invariant id maxInflight { state with
        selector := { state.selector with current := some held } } :=
  { invariant with
    current := by
      rintro _ ⟨⟩
      exact usable
    returned := by
      intro isOpen lane was
      have before := invariant.returned isOpen lane was
      rw [noCurrent] at before
      exact .inr (before.resolve_left nofun) }

theorem enter {lane : SeqLane} (isOpen : state.selector.closed = false)
    (room : state.selector.hasRoom lane.lane = true)
    (isClient : ∀ held,
        lane = .client held → state.selector.current = some held ∧ state.selector.legacyPin = []) :
    Invariant id maxInflight { state with
        selector := state.selector.enter lane.lane
        picks := state.picks ++ [(lane.lane, false)]
        history := .picked lane :: state.history } := by
  have count : ∀ other, (state.picks ++ [(lane.lane, false)]).count (other, false) =
      state.selector.inflight other +
        if other = lane.lane then 1 else 0 := by
    intro other
    simp [invariant.counted, State.outstanding, count_singleton, eq_comm (a := other)]
  refine { invariant with
      counted := ?counted
      capped := ?capped
      returned := ?returned
      picked := invariant.picked.cons ?safe }
  case counted =>
    intro other
    simp only [State.outstanding, count, Selector.enter, Function.update_apply]
    split
    · rename_i same
      rw [same]
    · rfl
  case capped =>
    intro other named bounded
    simp only [State.outstanding, count]
    split
    · rename_i same
      subst same
      simpa [hasRoom, named, invariant.bound, bounded.ne'] using room
    · rw [invariant.counted]
      exact invariant.capped other named bounded
  case returned =>
    intro _ other was
    simp only [LaneSelection.returned, any_cons, Bool.or_eq_true] at was
    rcases was with now | before
    · cases lane with
      | legacy => cases now
      | client held =>
        left
        rw [Selector.enter, (isClient held rfl).1]
        exact congrArg some (of_decide_eq_true now)
    · exact invariant.returned isOpen other before
  case safe =>
    rintro held ⟨⟩
    obtain ⟨isCurrent, noPin⟩ := isClient held rfl
    refine ⟨invariant.pin ▸ noPin, fun was => ?_⟩
    exact (invariant.current held isCurrent).not_retired invariant.world
      (invariant.away isOpen _ was)

theorem pick
    (lanesEnabled : Bool)
    (actions : List Action)
    (ended : Bool) :
    Invariant id maxInflight (state.step id (.pick lanesEnabled actions ended)) := by
  obtain ⟨kept, events, beside⟩ := beside_runForeign id invariant.world actions
  have moved := invariant.beside kept beside
  generalize ran : state.selector.pick lanesEnabled
      (acquired id state.world (runForeign id state.world actions)) ended = result
  obtain ⟨selector, round⟩ := result
  obtain ⟨current, origin, rest⟩ := pick_spec ran
  have chosen : Invariant id maxInflight { state with
      world := runForeign id state.world actions
      selector := { state.selector with current := current } } := by
    rcases origin with rfl | ⟨noCurrent, held, found, rfl⟩
    · exact moved
    · exact moved.acquire noCurrent (beside.usable_of_acquired kept found)
  simp only [State.step, ran]
  rcases rest with ⟨notPicked, rfl⟩ | ⟨lane, rfl, isOpen, room, rfl, isClient⟩
  · cases round with
    | picked lane => exact absurd rfl (notPicked lane)
    | refused failure | waits => exact chosen
  · exact chosen.enter isOpen room isClient

theorem done (number : Nat) : Invariant id maxInflight (state.step id (.done number)) := by
  have freed := outstanding_done id state number
  rcases isPick : state.picks[number]? with _ | ⟨lane, _ | _⟩
  · simpa [State.step, isPick] using invariant
  · simp only [State.step, isPick, ← invariant.counted] at freed ⊢
    refine { invariant with counted := ?counted, capped := ?capped }
    case counted =>
      intro other
      have before := freed other
      simp only [leave, State.outstanding, Function.update_apply] at before ⊢
      split
      · rename_i same
        rw [← same, before, same, if_pos rfl, Nat.add_sub_cancel]
      · rename_i different
        rw [before, if_neg (by simpa [eq_comm] using different), Nat.add_zero]
    case capped =>
      intro other named bounded
      have before := invariant.capped other named bounded
      rw [← invariant.counted, freed other] at before
      exact (Nat.le_add_right _ _).trans before
  · simpa [State.step, isPick] using invariant

theorem recordRotated (retired : state.selector.closed = false →
    LaneSelection.returned lane state.history = true → Retired id state.world lane) :
    Invariant id maxInflight { state with history := .rotated lane :: state.history } :=
  { invariant with
    away := by
      intro isOpen other was
      rw [rotatedAway] at was
      split at was
      · rename_i before
        rcases mem_cons.mp was with rfl | was
        · exact retired isOpen before
        · exact invariant.away isOpen other was
      · exact invariant.away isOpen other was
    picked := invariant.picked.cons nofun }

/-- The rotation of a lane that is not current does nothing. -/
theorem rotate
    (lane : Lane)
    (write : WriteOutcome) :
    Invariant id maxInflight (state.step id (.rotate lane write)) := by
  have ignored (notCurrent : state.selector.current.map (·.lane) ≠ some lane) :=
    invariant.recordRotated fun isOpen was =>
      (invariant.returned isOpen lane was).resolve_left notCurrent
  cases isCurrent : state.selector.current with
  | none =>
    rw [isCurrent] at ignored
    simpa [State.step, Selector.rotate, isCurrent] using ignored nofun
  | some held =>
    rw [isCurrent] at ignored
    by_cases same : held.lane = lane
    · subst same
      obtain ⟨grows, retired⟩ := retired_rotate (invariant.current held isCurrent).own write
      simp only [State.step, Selector.rotate, isCurrent, if_true]
      refine recordRotated (?after : Invariant id maxInflight { state with
          world := state.world.run (rotation held write)
          selector := { state.selector with current := none } })
        fun _ _ => retired
      refine { invariant with
        world := invariant.world.run _
        current := nofun
        returned := ?_
        away := fun isOpen other was => (invariant.away isOpen other was).mono grows }
      intro isOpen other was
      rcases invariant.returned isOpen other was with current | before
      · rw [isCurrent] at current
        cases current
        exact .inr retired
      · exact .inr (before.mono grows)
    · simpa [State.step, Selector.rotate, isCurrent, same] using ignored (by simpa using same)

theorem step (step : Step) : Invariant id maxInflight (state.step id step) := by
  cases step with
  | pool actions =>
    obtain ⟨kept, events, beside⟩ := beside_runForeign id invariant.world actions
    exact invariant.beside kept beside
  | pick lanesEnabled actions ended => exact invariant.pick lanesEnabled actions ended
  | done number => exact invariant.done number
  | rotate lane write => exact invariant.rotate lane write
  | pinLegacy reason =>
    exact { invariant with
        pin := rfl
        picked := invariant.picked.cons nofun }
  | close =>
    have kept : LanePool.Invariant
        (state.selector.current.elim state.world (state.world.step <| .close ·.store)) := by
      cases state.selector.current with
      | none => exact invariant.world
      | some held => exact invariant.world.step (.close held.store)
    exact { invariant with
        world := kept
        current := nofun
        returned := nofun
        away := nofun }

theorem run (steps : List Step) : Invariant id maxInflight (state.run id steps) := by
  induction steps generalizing state with
  | nil => exact invariant
  | cons step rest inductionHypothesis => exact inductionHypothesis (invariant.step step)

end Invariant

/--
In every interleaving of one selector with its pool and the other processes,
the picks that are not done are counted, within the bound of the client lanes;
a client lane is picked neither under a pin nor after the rotation of it that
followed a pick; and the second call of a done function changes nothing.
-/
theorem lane_selection
    (id : Nat)
    (mode : LaneMode)
    (maxInflight : Nat)
    (actions : List Action)
    (steps : List Step) :
    let initial := State.initial (initial.run actions) mode maxInflight
    let final := initial.run id steps
    (∀ lane, final.selector.inflight lane = final.outstanding lane) ∧
      (∀ lane, lane ≠ [] → 0 < maxInflight → final.outstanding lane ≤ maxInflight) ∧
      (∀ later held earlier,
        final.history = later ++ .picked (.client held) :: earlier →
        lastPin earlier = [] ∧ held.lane ∉ rotatedAway earlier) ∧
      ∀ number,
        let once := final.step id (.done number)
        once.step id (.done number) = once ∧
          ∀ lane, final.outstanding lane = once.outstanding lane +
                if final.picks[number]? = some (lane, false) then 1 else 0 := by
  intro initial final
  have start : Invariant id maxInflight initial :=
    { world := invariant_initial.run actions
      bound := rfl
      counted := fun _ => rfl
      capped := fun _ _ _ => Nat.zero_le _
      pin := rfl
      current := nofun
      returned := nofun
      away := nofun
      picked := by
        intro later held earlier split
        cases later <;> cases split }
  have invariant : Invariant id maxInflight final := start.run steps
  refine ⟨invariant.counted, invariant.capped, invariant.picked, ?_⟩
  exact fun number => ⟨done_done final number, outstanding_done id final number⟩

/-- The rotation of a lane before any pick, and a pin without a reason. -/
theorem rotated_and_pinned_lane_picked :
    let input : AcquireInput := ⟨false, Vector.replicate 8 0, .stored⟩
    let lane := hexEncode input.random.toList
    let steps := [.rotate lane .stored, .pinLegacy [],
        .pick true (.acquire 0 false :: replicate 4 (.acquireStep 0 input)) false]
    ((State.initial (LanePool.initial.run [.start]) .auto 1).run 0 steps).history =
      [.picked (.client ⟨0, lane⟩), .pinned [], .rotated lane] := by
  decide +kernel

end Selection

end HouseGate.LaneSelection
