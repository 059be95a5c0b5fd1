import HouseGate.LanePool

namespace HouseGate.LaneSelector

open DecimalText LanePool

/-!
# The lane selector

`laneSelector` hands out the lane of one statement, counts the statements in
flight on each lane and moves on to another lane after a refusal.  The pool
behind it is the module of the lane files; here a lane that was acquired is an
answer of the environment.
-/

/-- Whether lanes are used at all. -/
inductive LaneMode where
  | auto
  | off
  deriving DecidableEq

/-- A store the pool handed out: the object and the lane it writes. -/
structure ClientLane where
  store : Nat
  lane : Lane
  deriving DecidableEq

/-- The lane of one statement. -/
inductive SeqLane where
  | legacy
  | client (held : ClientLane)
  deriving DecidableEq

/-- The legacy lane has the empty name. -/
def SeqLane.lane : SeqLane → Lane
  | .legacy => []
  | .client held => held.lane

/-- A zero bound leaves client lanes unbounded. -/
structure Selector where
  mode : LaneMode
  maxInflight : Nat
  current : Option ClientLane
  legacyPin : Bytes
  closed : Bool
  inflight : Lane → Nat

def newLaneSelector (mode : LaneMode) (maxInflight : Nat) : Selector where
  mode := mode
  maxInflight := maxInflight
  current := none
  legacyPin := []
  closed := false
  inflight := fun _ => 0

/-- Why no lane was picked. -/
inductive PickError where
  | closed
  | openPool
  | acquire
  | full (lane : Lane) (inflight : Nat)

/-- One round of the loop of `pick`. -/
inductive Round where
  | picked (lane : SeqLane)
  | refused (failure : PickError)
  | waits

variable {acquired : Except PickError ClientLane}

namespace Selector

variable (selector : Selector)

def usesClientLane (lanesEnabled : Bool) : Bool :=
  selector.mode = .auto && lanesEnabled && selector.legacyPin = []

/-- The lane of the next statement; a missing client lane is acquired. -/
def laneFor (lanesEnabled : Bool) (acquired : Except PickError ClientLane) :
    Except PickError (SeqLane × Selector) :=
  if selector.usesClientLane lanesEnabled then
    match selector.current with
    | some held => .ok (.client held, selector)
    | none => acquired.map fun held => (.client held, { selector with current := some held })
  else
    .ok (.legacy, selector)

variable (lane : Lane)

/-- Only client lanes are capped; the legacy lane is merely counted. -/
def hasRoom : Bool :=
  lane = [] || selector.maxInflight = 0 || selector.inflight lane < selector.maxInflight

def enter : Selector := { selector with
    inflight := Function.update selector.inflight lane (selector.inflight lane + 1) }

/-- `ended` tells whether the context of the waiting statement is over. -/
def pick (lanesEnabled : Bool) (acquired : Except PickError ClientLane)
    (ended : Bool) : Selector × Round :=
  if selector.closed then
    (selector, .refused .closed)
  else
    match selector.laneFor lanesEnabled acquired with
    | .error failure => (selector, .refused failure)
    | .ok (lane, selector) =>
      if selector.hasRoom lane.lane then
        (selector.enter lane.lane, .picked lane)
      else if ended then
        (selector, .refused (.full lane.lane (selector.inflight lane.lane)))
      else
        (selector, .waits)

/-- What the function that `pick` returns does once. -/
def leave : Selector := { selector with
    inflight := Function.update selector.inflight lane (selector.inflight lane - 1) }

/-- The selector and the store that is abandoned or retired. -/
def rotate : Selector × Option ClientLane :=
  match selector.current with
  | some held =>
    if held.lane = lane then ({ selector with current := none }, some held) else (selector, none)
  | none => (selector, none)

def pinLegacy (reason : Bytes) : Selector := { selector with legacyPin := reason }

def close (selector : Selector) : Selector := { selector with closed := true, current := none }

/-- What one round may do to the selector. -/
theorem pick_spec
    {selector after : Selector}
    {lanesEnabled ended : Bool}
    {round : Round}
    (ran : selector.pick lanesEnabled acquired ended = (after, round)) :
    ∃ current, (current = selector.current ∨ selector.current = none ∧
        ∃ held, acquired = .ok held ∧ current = some held) ∧
        (((∀ lane, round ≠ .picked lane) ∧ after = { selector with current := current }) ∨
          ∃ lane, round = .picked lane ∧ selector.closed = false ∧
              selector.hasRoom lane.lane = true ∧
              after = { selector with current := current }.enter lane.lane ∧
              ∀ held, lane = .client held → current = some held ∧ selector.legacyPin = []) := by
  unfold pick at ran
  split at ran
  · cases ran
    exact ⟨_, .inl rfl, .inl ⟨nofun, rfl⟩⟩
  rename_i notClosed
  simp only [Bool.not_eq_true] at notClosed
  split at ran
  · cases ran
    exact ⟨_, .inl rfl, .inl ⟨nofun, rfl⟩⟩
  rename_i lane chosen found
  have chose : ∃ current, (current = selector.current ∨
      selector.current = none ∧ ∃ held, acquired = .ok held ∧ current = some held) ∧
      chosen = { selector with current := current } ∧
      ∀ held, lane = .client held → current = some held ∧ selector.legacyPin = [] := by
    unfold laneFor usesClientLane at found
    split at found
    · rename_i uses
      simp only [Bool.and_eq_true, decide_eq_true_eq] at uses
      split at found
      · rename_i held isCurrent
        cases found
        refine ⟨_, .inl rfl, rfl, ?_⟩
        rintro _ ⟨⟩
        exact ⟨isCurrent, uses.2⟩
      · rename_i noCurrent
        cases acquired with
        | error failure => cases found
        | ok held =>
          cases found
          refine ⟨some held, .inr ⟨noCurrent, held, rfl, rfl⟩, rfl, ?_⟩
          rintro _ ⟨⟩
          exact ⟨rfl, uses.2⟩
    · cases found
      exact ⟨_, .inl rfl, rfl, nofun⟩
  obtain ⟨current, origin, rfl, isClient⟩ := chose
  refine ⟨current, origin, ?_⟩
  split at ran
  · rename_i room
    cases ran
    exact .inr ⟨lane, rfl, notClosed, room, rfl, isClient⟩
  split at ran
  · cases ran
    exact .inl ⟨nofun, rfl⟩
  · cases ran
    exact .inl ⟨nofun, rfl⟩

theorem rotate_inflight : (selector.rotate lane).1.inflight = selector.inflight := by
  unfold rotate
  split
  · split <;> rfl
  · rfl

end Selector

end HouseGate.LaneSelector
