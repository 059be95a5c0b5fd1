import HouseGate.RelayPacketEffects

namespace HouseGate.Relay

open DecimalText List

/-!
# Numbers and histories

A query is numbered when its packet arrives, and nothing in the state or in
the history names a number that was not given yet.  A new number is therefore
untouched, and it stays so until its own lane names it.
-/

/-! ## Histories -/

/-- Every event is permitted by what was recorded before it. -/
def Chronicle (permitted : Event → List Event → Prop) : List Event → Prop
  | [] => True
  | event :: earlier => permitted event earlier ∧ Chronicle permitted earlier

theorem chronicle_append
    {permitted : Event → List Event → Prop}
    {kind : Event → Prop}
    {events history : List Event}
    (kinds : ∀ event ∈ events, kind event)
    (permits :
      ∀ event rest, kind event → (∀ other ∈ rest, kind other) → permitted event (rest ++ history))
    (holds : Chronicle permitted history) :
    Chronicle permitted (events ++ history) := by
  induction events with
  | nil => exact holds
  | cons event rest inductionHypothesis =>
    have restKinds : ∀ other ∈ rest, kind other :=
      fun other member => kinds other (mem_cons_of_mem event member)
    exact ⟨permits event rest (kinds event mem_cons_self) restKinds,
      inductionHypothesis restKinds⟩

/-! ## Numbers -/

/--
The query an event is about.  What the upstream pump sends to the client is
numbered by the slot of the moment and left out.
-/
def Event.Names (event : Event) (number : Nat) : Prop :=
  match event with
  | .onQuery query | .onQueryAbort query _ | .onClientDataStrict query _
  | .strictReturned query _ | .onQueryInputComplete query | .began query
  | .took query | .armed _ query | .canceled query | .rejectionArmed query _
  | .resent _ query _ _ | .encoded query _ | .sampleConsumed query _
  | .stageEntered query _ | .stageReturned query _ _ | .stageStopped query | .prepareEntered query
  | .prepareCanceled query | .forwardGateWon query | .reconcileCancel query
  | .forwardUnknown query => query = number
  | .planned context | .strictEntered context _ => context.number = number
  | .toUpstream _ query _ _ | .toClient query _ => query = some number
  | .onQuerySuccess _ | .onQueryComplete | .onClose | .relayed _ _ _ _
  | .rawRelayed _ _ _ | .decoded _ _ _ | .rebound _ => False

/-- Every number in the state was given out before. -/
structure Numbered (state : State) : Prop where
  positive : 0 < state.queries
  events : ∀ event ∈ state.history, ∀ number, event.Names number → number < state.queries
  active : ∀ active, state.active = some active → active.number < state.queries
  gates : ∀ gate, (state.gate gate).context.number < state.queries
  armed : ∀ armed, state.failoverQuery = some armed → armed.number < state.queries
  sampled : ∀ gate query, state.sampleGate = some (gate, query) → query < state.queries
  working : ∀ query stage, state.worker = .running query stage → query < state.queries

variable {state : State} {event : Event} {number : Nat}

/-- The queries that other threads may speak of. -/
theorem otherEvent_names (other : OtherEvent state event) (names : event.Names number) :
    (∃ gate, (state.gate gate).context.number = number) ∨
      (∃ active, state.active = some active ∧ active.number = number) ∨
      (∃ gate, state.sampleGate = some (gate, number)) ∨
      (∃ armed, state.failoverQuery = some armed ∧ armed.number = number) ∨
      ∃ stage, state.worker = .running number stage := by
  cases event with
  | onQueryAbort query unsent =>
    obtain ⟨-, gate, same⟩ := other
    exact .inl ⟨gate, same.symm.trans names⟩
  | took query =>
    obtain ⟨active, held, same⟩ := other
    exact .inr (.inl ⟨active, held, same.symm.trans names⟩)
  | sampleConsumed query raw =>
    obtain ⟨gate, held⟩ := other
    cases names
    exact .inr (.inr (.inl ⟨gate, held⟩))
  | resent codec query packet whole =>
    obtain ⟨armed, held, same, -⟩ := other
    exact .inr (.inr (.inr (.inl ⟨armed, held, same.symm.trans names⟩)))
  | stageReturned query stage error =>
    cases names
    exact .inr (.inr (.inr (.inr ⟨stage, other⟩)))
  | onQuerySuccess | onQueryComplete | onClose | relayed | rawRelayed
  | decoded | rebound => exact names.elim
  | _ => exact other.elim

/-- The queries that a lane may speak of. -/
theorem laneEvent_names
    {lane : Lane}
    {own : Nat}
    (event_own : LaneEvent lane own state event)
    (names : event.Names number) :
    number = own ∨ (∃ gate, (state.gate gate).context.number = number) ∨
      ∃ active, state.active = some active ∧ active.number = number := by
  cases event with
  | onQueryAbort query unsent =>
    rcases event_own with ⟨same, -⟩ | ⟨-, -, gate, same⟩
    · exact .inl (names.symm.trans same)
    · exact .inr (.inl ⟨gate, same.symm.trans names⟩)
  | took query | canceled query =>
    obtain ⟨active, held, same⟩ := event_own
    exact .inr (.inr ⟨active, held, same.symm.trans names⟩)
  | rejectionArmed query exception =>
    obtain ⟨-, active, held, same⟩ := event_own
    exact .inr (.inr ⟨active, held, same.symm.trans names⟩)
  | toClient query packet =>
    rcases event_own with same | ⟨none, -⟩
    · exact .inl (Option.some.inj (names.symm.trans same))
    · cases names.symm.trans none
  | toUpstream codec query packet whole =>
    rcases event_own with ⟨same, -⟩ | ⟨none, -⟩
    · exact .inl (Option.some.inj (names.symm.trans same))
    · cases names.symm.trans none
  | began query => exact .inl (names.symm.trans event_own)
  | prepareEntered query | prepareCanceled query | forwardGateWon query
  | reconcileCancel query | forwardUnknown query | stageEntered query stage
  | stageStopped query | armed gate query
  | encoded query payload | onClientDataStrict query raw
  | strictReturned query error | onQueryInputComplete query
  | strictEntered context payload => exact .inl (names.symm.trans event_own.1)
  | onQueryComplete => exact names.elim
  | _ => exact event_own.elim

variable {before after : State}

/-- Other threads speak of no query that the state did not hold. -/
theorem OtherEffect.numbers
    {Held : Nat → Prop}
    (effect : OtherEffect before after)
    (active : ∀ active, before.active = some active → Held active.number)
    (gates : ∀ gate, Held (before.gate gate).context.number)
    (armed : ∀ armed, before.failoverQuery = some armed → Held armed.number)
    (sampled : ∀ gate query, before.sampleGate = some (gate, query) → Held query)
    (working : ∀ query stage, before.worker = .running query stage → Held query) :
    (∀ event ∈ after.history, event ∈ before.history ∨ ∀ number, event.Names number → Held number) ∧
      (∀ active, after.active = some active → Held active.number) ∧
      (∀ gate, Held (after.gate gate).context.number) ∧
      (∀ armed, after.failoverQuery = some armed → Held armed.number) ∧
      (∀ gate query, after.sampleGate = some (gate, query) → Held query) ∧
      ∀ query stage, after.worker = .running query stage → Held query := by
  obtain ⟨events, history, others, slot⟩ := effect.events
  refine ⟨?_, ?_, ?_, ?_, ?_, ?_⟩
  · intro event member
    rw [history] at member
    rcases mem_append.mp member with new | old
    · right
      intro number names
      rcases otherEvent_names (others event new) names with
        ⟨gate, same⟩ | ⟨query, held, same⟩ | ⟨gate, held⟩ |
        ⟨query, held, same⟩ | ⟨stage, running⟩
      · exact same ▸ gates gate
      · exact same ▸ active query held
      · exact sampled gate number held
      · exact same ▸ armed query held
      · exact working number stage running
    · exact .inl old
  · intro query held
    rcases slot with ⟨same, -⟩ | ⟨gone, -⟩
    · exact active query (same ▸ held)
    · rw [gone] at held
      cases held
  · intro gate
    rw [(effect.gate gate).context]
    exact gates gate
  · intro query held
    obtain ⟨earlier, heldEarlier, same⟩ := effect.failoverQuery query held
    rw [same.number]
    exact armed earlier heldEarlier
  · intro gate query held
    rcases effect.sampleGate with same | gone
    · exact sampled gate query (same ▸ held)
    · rw [gone] at held
      cases held
  · intro query stage running
    exact working query stage (effect.running running)

theorem Numbered.other
    (numbered : Numbered before)
    (effect : OtherEffect before after) :
    Numbered after := by
  have positive := numbered.positive
  obtain ⟨events, active, gates, armed, sampled, working⟩ :=
    effect.numbers numbered.active numbered.gates numbered.armed numbered.sampled
      numbered.working
  rw [← effect.queries] at positive active gates armed sampled working
  refine ⟨positive, ?_, active, gates, armed, sampled, working⟩
  intro event member number names
  rw [effect.queries]
  rcases events event member with old | held
  · exact numbered.events event old number names
  · exact held number names

theorem SlotMove.number_cases
    {events : List Event}
    {before : Option ActiveQuery}
    {active : ActiveQuery}
    (move : SlotMove number events before (some active)) :
    active.number = number ∨ ∃ earlier, before = some earlier ∧ active.number = earlier.number := by
  generalize target : some active = after at move
  cases move with
  | stay => exact .inr ⟨active, target.symm, rfl⟩
  | begin free id recorded =>
    cases target
    exact .inl rfl
  | take held recorded => cases target
  | cancel held =>
    cases target
    exact .inr ⟨_, held, rfl⟩

theorem Numbered.lane
    {lane : Lane}
    (numbered : Numbered before)
    (below : number < before.queries)
    (effect : LaneEffect lane number before after) :
    Numbered after := by
  obtain ⟨events, history, own, slot⟩ := effect.events
  refine ⟨?_, ?_, ?_, ?_, ?_, ?_, ?_⟩
  · rw [effect.queries]
    exact numbered.positive
  · intro event member named names
    rw [effect.queries]
    rw [history] at member
    rcases mem_append.mp member with new | old
    · rcases laneEvent_names (own event new) names with
        same | ⟨gate, same⟩ | ⟨active, held, same⟩
      · exact same ▸ below
      · exact same ▸ numbered.gates gate
      · exact same ▸ numbered.active active held
    · exact numbered.events event old named names
  · intro active held
    rw [effect.queries]
    rw [held] at slot
    rcases slot.number_cases with same | ⟨earlier, heldEarlier, same⟩
    · exact same ▸ below
    · exact same ▸ numbered.active earlier heldEarlier
  · intro gate
    rw [effect.queries]
    rcases effect.contexts gate with same | ⟨-, same⟩
    · exact same ▸ numbered.gates gate
    · exact same ▸ below
  · intro armed held
    rw [effect.queries]
    rcases effect.armed armed held with same | ⟨earlier, heldEarlier, same⟩
    · exact same ▸ below
    · exact same ▸ numbered.armed earlier heldEarlier
  · intro gate query held
    rw [effect.queries]
    rcases effect.sampled gate query held with same | heldEarlier
    · exact same ▸ below
    · exact numbered.sampled gate query heldEarlier
  · intro query stage running
    rw [effect.queries]
    rcases effect.worker query stage running with before | ⟨same, -⟩
    · exact numbered.working query stage before
    · exact same ▸ below

theorem numbered_initial (failoverEligible : Bool) (database : Bytes) :
    Numbered (.initial failoverEligible database) where
  positive := Nat.one_pos
  events := forall_mem_nil _
  active := nofun
  gates := fun _ => Nat.one_pos
  armed := nofun
  sampled := nofun
  working := nofun

/-! ## New queries -/

/-- A query that only the listed events name, and nothing in the state. -/
structure Untouched
    (number : Nat)
    (seen : List Event)
    (state : State) : Prop where
  positive : 0 < number
  below : number < state.queries
  events : ∀ event ∈ state.history, event.Names number → event ∈ seen
  active : ∀ active, state.active = some active → active.number ≠ number
  gates : ∀ gate, (state.gate gate).context.number ≠ number
  armed : ∀ armed, state.failoverQuery = some armed → armed.number ≠ number
  sampled : ∀ gate query, state.sampleGate = some (gate, query) → query ≠ number
  working : ∀ query stage, state.worker = .running query stage → query ≠ number

variable {seen : List Event}

theorem Untouched.other
    (untouched : Untouched number seen before)
    (effect : OtherEffect before after) :
    Untouched number seen after := by
  obtain ⟨events, active, gates, armed, sampled, working⟩ :=
    effect.numbers untouched.active untouched.gates untouched.armed untouched.sampled
      untouched.working
  refine ⟨untouched.positive, ?_, ?_, active, gates, armed, sampled, working⟩
  · rw [effect.queries]
    exact untouched.below
  · intro event member names
    rcases events event member with old | held
    · exact untouched.events event old names
    · exact absurd rfl (held number names)

/-- The next number is untouched once it is given. -/
theorem untouched_next (numbered : Numbered state) : Untouched state.queries []
    { state with queries := state.queries + 1 } where
  positive := numbered.positive
  below := Nat.lt_succ_self _
  events := fun event member names => absurd (numbered.events event member _ names) (lt_irrefl _)
  active := fun active held same => absurd (same ▸ numbered.active active held) (lt_irrefl _)
  gates := fun gate same => absurd (same ▸ numbered.gates gate) (lt_irrefl _)
  armed := fun armed held same => absurd (same ▸ numbered.armed armed held) (lt_irrefl _)
  sampled := fun gate query held same =>
    absurd (same ▸ numbered.sampled gate query held) (lt_irrefl _)
  working := fun query stage running same =>
    absurd (same ▸ numbered.working query stage running) (lt_irrefl _)

/-- One event about the query, or about none. -/
theorem Untouched.record
    (untouched : Untouched number seen state)
    (event : Event) :
    Untouched number (event :: seen) (state.record event) := by
  refine { untouched with events := ?_ }
  intro other member names
  rcases mem_cons.mp member with rfl | old
  · exact mem_cons_self
  · exact mem_cons_of_mem event (untouched.events other old names)

end HouseGate.Relay
