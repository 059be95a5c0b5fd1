import HouseGate.RelayClientRules

namespace HouseGate.Relay

open EffectProgram List

/-!
# The forward gate of an agent-prepared query

What the relay may do with a query that a worker prepares: its Query goes
upstream only through the gate, a cancellation keeps the gate shut, and a
winner of the gate whose authorization is stopped and joined is left to
`PersistForwardUnknown`.  A stage returns when its worker does, whoever still
waits for it.
-/

/-! ## What the gate permits -/

variable (number : Nat)
  (history : List Event)

/-- The query holds the active slot and nobody gave it up. -/
structure Live : Prop where
  began : .began number ∈ history
  held : .took number ∉ history
  kept : .canceled number ∉ history
  uncanceled : .prepareCanceled number ∉ history

/-- A stage returned nil while its query was live. -/
def ReturnedLive (stage : Stage) (history : List Event) : Prop := ∃ later earlier,
    history = later ++ .stageReturned number stage none :: earlier ∧ Live number earlier

/-- The gate was won, and both of its stages returned nil. -/
structure Authorized : Prop where
  won : .forwardGateWon number ∈ history
  persisted : ReturnedLive number .persistForwardIntent history
  authorized : ReturnedLive number .authorizeForward history

/-- What a query needs to be written upstream, if it was prepared. -/
def Cleared : Prop :=
  .prepareEntered number ∈ history → Authorized number history ∧ .prepareCanceled number ∉ history

def GatePermitted (event : Event) (earlier : List Event) : Prop :=
  match event with
  | .toUpstream _ (some query) _ _ => Cleared query earlier
  | .resent _ query _ _ => Cleared query earlier
  | .forwardGateWon query => Live query earlier
  | .stageEntered query .authorizeForward =>
    .forwardGateWon query ∈ earlier ∧ .prepareCanceled query ∉ earlier
  | .reconcileCancel query => .forwardGateWon query ∈ earlier → .prepareCanceled query ∉ earlier
  | .onQueryAbort query _ =>
    .stageStopped query ∈ earlier → .stageReturned query .authorizeForward none ∉ earlier
  | _ => True

/-- Every winner that was stopped and authorized is persisted as unknown. -/
def Known : Prop := ∀ number, .stageStopped number ∈ history →
    .stageReturned number .authorizeForward none ∈ history → .forwardUnknown number ∈ history

/-! ## Events of other lanes -/

/-- The events of the agent's lane on which the gate's rules depend. -/
def Event.isAgent (event : Event) : Bool :=
  match event with
  | .prepareEntered _ | .prepareCanceled _ | .forwardGateWon _
  | .stageStopped _ => true
  | _ => false

theorem otherEvent_isAgent
    {state : State}
    {event : Event}
    (other : OtherEvent state event) :
    event.isAgent = false := by
  cases event with
  | prepareEntered | prepareCanceled | forwardGateWon | stageStopped => exact other.elim
  | _ => rfl

theorem laneEvent_isAgent
    {lane : Lane}
    {number : Nat}
    {state : State}
    {event : Event}
    (foreign : lane ≠ .agent)
    (own : LaneEvent lane number state event) :
    event.isAgent = false := by
  cases event with
  | prepareEntered | prepareCanceled | forwardGateWon | stageStopped => exact absurd own.2 foreign
  | _ => rfl

theorem laneEvent_isReturn
    {lane : Lane}
    {number : Nat}
    {state : State}
    {event : Event}
    (own : LaneEvent lane number state event) :
    event.isReturn = false := by
  cases event with
  | stageReturned => exact own.elim
  | _ => rfl

/-- A history that grew by events on which the gate's rules do not depend. -/
structure Aside (earlier later : List Event) : Prop where
  grows : ∃ events, later = events ++ earlier
  agent : ∀ {event : Event}, event.isAgent = true → event ∈ later → event ∈ earlier

section Foreign

variable {history} {events later : List Event} {event : Event} {number} {before after : State}

theorem Aside.mem (aside : Aside history later) (member : event ∈ history) : event ∈ later := by
  obtain ⟨events, rfl⟩ := aside.grows
  exact mem_append_right _ member

theorem aside_of_foreign (foreign : ∀ other ∈ events, other.isAgent = false) :
    Aside history (events ++ history) where
  grows := ⟨events, rfl⟩
  agent := by
    intro event agent member
    rcases mem_append.mp member with new | old
    · rw [foreign event new] at agent
      cases agent
    · exact old

theorem OtherEffect.aside (effect : OtherEffect before after) :
    Aside before.history after.history := by
  obtain ⟨events, history, others, -⟩ := effect.events
  rw [history]
  exact aside_of_foreign fun event member => otherEvent_isAgent (others event member)

/-- Nothing but a worker that returns is of interest to the gate. -/
structure Calm (before after : State) : Prop where
  queries : before.queries ≤ after.queries
  aside : Aside before.history after.history
  running : ∀ {query stage}, after.worker = .running query stage →
      before.worker = .running query stage
  returned : ∀ {query stage error}, .stageReturned query stage error ∈ after.history →
      .stageReturned query stage error ∈ before.history ∨ before.worker = .running query stage

theorem OtherEffect.calm (effect : OtherEffect before after) : Calm before after where
  queries := effect.queries.ge
  aside := effect.aside
  running := effect.running
  returned := by
    intro query stage error member
    obtain ⟨events, history, others, -⟩ := effect.events
    rw [history] at member
    rcases mem_append.mp member with new | old
    · exact .inr (others _ new)
    · exact .inl old

/-- Events that no worker recorded. -/
theorem calm_of_silent
    (queries : before.queries ≤ after.queries)
    (history : after.history = events ++ before.history)
    (foreign : ∀ event ∈ events, event.isAgent = false ∧ event.isReturn = false)
    (running : ∀ {query stage}, after.worker = .running query stage →
      before.worker = .running query stage) :
    Calm before after where
  queries := queries
  aside := history ▸ aside_of_foreign fun event member => (foreign event member).1
  running := running
  returned := by
    intro query stage error member
    rw [history] at member
    rcases mem_append.mp member with new | old
    · cases (foreign _ new).2
    · exact .inl old

theorem calm_record {state : State} (foreign : event.isAgent = false)
    (silent : event.isReturn = false) :
    Calm state (state.record event) :=
  calm_of_silent le_rfl rfl (forall_mem_singleton.mpr ⟨foreign, silent⟩) id

theorem LaneEffect.calm
    {lane : Lane}
    (effect : LaneEffect lane number before after)
    (foreign : lane ≠ .agent) :
    Calm before after := by
  obtain ⟨events, history, own, -⟩ := effect.events
  refine calm_of_silent effect.queries.ge history ?_ ?_
  · intro event member
    exact ⟨laneEvent_isAgent foreign (own event member), laneEvent_isReturn (own event member)⟩
  · intro query stage running
    exact (effect.worker query stage running).resolve_right fun agent => foreign agent.2

/-- An event other than the new one was there before it. -/
theorem mem_before
    {new : Event}
    (history : after.history = new :: before.history)
    (event : Event)
    (other : event ≠ new)
    (member : event ∈ after.history) :
    event ∈ before.history := by
  rw [history] at member
  exact (mem_cons.mp member).resolve_left other

theorem ReturnedLive.append {stage : Stage} (returned : ReturnedLive number stage history) :
    ReturnedLive number stage (events ++ history) := by
  obtain ⟨later, earlier, same, live⟩ := returned
  exact ⟨events ++ later, earlier, by rw [same, append_assoc], live⟩

theorem Authorized.append (authorized : Authorized number history) :
    Authorized number (events ++ history) :=
  ⟨mem_append_right _ authorized.won, authorized.persisted.append, authorized.authorized.append⟩

theorem Cleared.append (cleared : Cleared number history) (aside : Aside history later) :
    Cleared number later := by
  intro entered
  obtain ⟨authorized, uncanceled⟩ := cleared (aside.agent rfl entered)
  refine ⟨?_, fun canceled => uncanceled (aside.agent rfl canceled)⟩
  obtain ⟨events, rfl⟩ := aside.grows
  exact authorized.append

/-- No worker is waited for that still runs. -/
def Unstopped (state : State) : Prop :=
  ∀ query stage, state.worker = .running query stage → .stageStopped query ∉ state.history

theorem Unstopped.calm (unstopped : Unstopped before) (calm : Calm before after) :
    Unstopped after :=
  fun query stage running stopped =>
    unstopped query stage (calm.running running) (calm.aside.agent rfl stopped)

/-- A worker that was stopped has returned before. -/
theorem Calm.returned_of_stopped
    {stage : Stage}
    {error : Option HookError}
    (calm : Calm before after)
    (unstopped : Unstopped before)
    (stopped : .stageStopped number ∈ after.history)
    (returned : .stageReturned number stage error ∈ after.history) :
    .stageReturned number stage error ∈ before.history :=
  (calm.returned returned).resolve_right fun running =>
    unstopped number stage running (calm.aside.agent rfl stopped)

theorem Known.calm (known : Known before.history) (unstopped : Unstopped before)
    (calm : Calm before after) :
    Known after.history := by
  intro query stopped returned
  exact calm.aside.mem (known query (calm.aside.agent rfl stopped)
    (calm.returned_of_stopped unstopped stopped returned))

/-- A query that was never prepared is cleared. -/
theorem cleared_of_unprepared (unprepared : .prepareEntered number ∉ history) :
    Cleared number history :=
  fun entered => absurd entered unprepared

end Foreign

/-! ## The invariant -/

/-- What is true between any two steps. -/
structure GateInvariant (state : State) : Prop where
  numbered : Numbered state
  chronicle : Chronicle GatePermitted state.history
  entered : ∀ number,
    .prepareCanceled number ∈ state.history ∨ .stageStopped number ∈ state.history →
      .prepareEntered number ∈ state.history
  gates : ∀ gate, .prepareEntered (state.gate gate).context.number ∉ state.history
  armed : ∀ armed, state.failoverQuery = some armed → Cleared armed.number state.history
  generations : state.agentForwardGeneration ≤ state.agentGeneration

/-- What the other lanes need of the gate to serve a query. -/
structure Quiet
    (lane : Lane)
    (number : Nat)
    (state : State) : Prop where
  below : number < state.queries
  zero : .prepareEntered 0 ∉ state.history ∧ .stageStopped 0 ∉ state.history
  known : Known state.history
  unstopped : Unstopped state
  settled : .stageStopped number ∈ state.history →
    .stageReturned number .authorizeForward none ∉ state.history
  cleared : lane ≠ .queryOnly → Cleared number state.history
  unprepared : lane = .signed → .prepareEntered number ∉ state.history

variable {before after : State} {number} {state : State} {stage : Stage}

theorem Quiet.calm
    {lane : Lane}
    (quiet : Quiet lane number before)
    (calm : Calm before after) :
    Quiet lane number after where
  below := quiet.below.trans_le calm.queries
  zero := ⟨fun entered => quiet.zero.1 (calm.aside.agent rfl entered),
    fun stopped => quiet.zero.2 (calm.aside.agent rfl stopped)⟩
  known := quiet.known.calm quiet.unstopped calm
  unstopped := quiet.unstopped.calm calm
  settled := fun stopped returned =>
    quiet.settled (calm.aside.agent rfl stopped)
      (calm.returned_of_stopped quiet.unstopped stopped returned)
  cleared := fun writes => (quiet.cleared writes).append calm.aside
  unprepared := fun signed entered => quiet.unprepared signed (calm.aside.agent rfl entered)

/-- An event of the agent's lane that stops no query and returns from no stage. -/
theorem Quiet.cons {event : Event} (quiet : Quiet .queryOnly number before)
    (history : after.history = event :: before.history)
    (queries : after.queries = before.queries)
    (worker : after.worker = before.worker)
    (entering : .prepareEntered 0 ≠ event)
    (stopping : ∀ query, .stageStopped query ≠ event)
    (returning : ∀ query, .stageReturned query .authorizeForward none ≠ event) :
    Quiet .queryOnly number after := by
  have stopped := fun query => mem_before history _ (stopping query)
  have returned := fun query => mem_before history _ (returning query)
  exact
    { below := queries ▸ quiet.below
      zero := ⟨fun member => quiet.zero.1 (mem_before history _ entering member),
        fun member => quiet.zero.2 (stopped 0 member)⟩
      known := fun query isStopped isReturned => history ▸
        mem_cons_of_mem _ (quiet.known query (stopped query isStopped) (returned query isReturned))
      unstopped := fun query stage running isStopped =>
        quiet.unstopped query stage (worker ▸ running) (stopped query isStopped)
      settled := fun isStopped isReturned =>
        quiet.settled (stopped number isStopped) (returned number isReturned)
      cleared := fun other => (other rfl).elim
      unprepared := nofun }

theorem Quiet.other
    {lane : Lane}
    (quiet : Quiet lane number before)
    (effect : OtherEffect before after) :
    Quiet lane number after :=
  quiet.calm effect.calm

theorem Quiet.lane
    {lane own : Lane}
    {number other : Nat}
    (quiet : Quiet lane number before)
    (foreign : own ≠ .agent)
    (effect : LaneEffect own other before after) :
    Quiet lane number after :=
  quiet.calm (effect.calm foreign)

/-- An abort of a gate's query is never one of a winner that was stopped. -/
theorem GateInvariant.gate_settled (invariant : GateInvariant state) (gate : Nat) :
    .stageStopped (state.gate gate).context.number ∉ state.history :=
  fun stopped => invariant.gates gate (invariant.entered _ (.inr stopped))

/-- Events of others, and what they are about, keep the invariant. -/
theorem GateInvariant.extend
    {events : List Event}
    (invariant : GateInvariant before)
    (numbered : Numbered after)
    (history : after.history = events ++ before.history)
    (foreign : ∀ event ∈ events, event.isAgent = false)
    (permits : ∀ event rest, event ∈ events → (∀ other ∈ rest, other ∈ events) →
        Aside before.history (rest ++ before.history) →
        GatePermitted event (rest ++ before.history))
    (gates : ∀ gate, .prepareEntered (after.gate gate).context.number ∉ before.history)
    (armed : ∀ armed, after.failoverQuery = some armed → Cleared armed.number before.history)
    (generations : after.agentForwardGeneration ≤ after.agentGeneration) :
    GateInvariant after := by
  have kinds : ∀ event ∈ events, event ∈ events := fun _ member => member
  have aside : Aside before.history after.history := history ▸ aside_of_foreign foreign
  refine ⟨numbered, ?_, ?_, ?_, ?_, generations⟩
  · rw [history]
    apply chronicle_append kinds _ invariant.chronicle
    intro event rest own others
    exact permits event rest own others
      (aside_of_foreign fun other member => foreign other (others other member))
  · intro number given
    refine aside.mem (invariant.entered number ?_)
    exact given.imp (fun canceled => aside.agent rfl canceled)
      fun stopped => aside.agent rfl stopped
  · intro gate entered
    exact gates gate (aside.agent rfl entered)
  · intro query held
    exact (armed query held).append aside

theorem GateInvariant.other
    (invariant : GateInvariant before)
    (effect : OtherEffect before after) :
    GateInvariant after := by
  obtain ⟨events, history, others, slot⟩ := effect.events
  apply invariant.extend (invariant.numbered.other effect) history
  · intro event member
    exact otherEvent_isAgent (others event member)
  · intro event rest member _ aside
    have other := others event member
    cases event with
    | onQueryAbort query unsent =>
      obtain ⟨-, gate, same⟩ := other
      intro stopped
      rw [same] at stopped
      exact absurd (aside.agent rfl stopped) (invariant.gate_settled gate)
    | resent codec query packet whole =>
      obtain ⟨armed, held, same, -⟩ := other
      rw [same]
      exact (invariant.armed armed held).append aside
    | toUpstream codec query packet whole | forwardGateWon query
    | stageEntered query stage | reconcileCancel query => exact other.elim
    | _ => trivial
  · intro gate
    rw [(effect.gate gate).context]
    exact invariant.gates gate
  · intro armed held
    obtain ⟨earlier, heldEarlier, same⟩ := effect.failoverQuery armed held
    rw [same.number]
    exact invariant.armed earlier heldEarlier
  · rw [effect.agentForwardGeneration, effect.agentGeneration]
    exact invariant.generations

theorem GateInvariant.lane
    {lane : Lane}
    (invariant : GateInvariant before)
    (foreign : lane ≠ .agent)
    (quiet : Quiet lane number before)
    (effect : LaneEffect lane number before after) :
    GateInvariant after := by
  obtain ⟨events, history, own, slot⟩ := effect.events
  apply invariant.extend (invariant.numbered.lane quiet.below effect) history
  · intro event member
    exact laneEvent_isAgent foreign (own event member)
  · intro event rest member others aside
    have ownEvent := own event member
    cases event with
    | onQueryAbort query unsent =>
      intro stopped
      have earlier := aside.agent rfl stopped
      rcases ownEvent with ⟨same, -⟩ | ⟨-, -, gate, same⟩
      · subst same
        intro returned
        rcases mem_append.mp returned with new | old
        · exact (own _ (others _ new)).elim
        · exact quiet.settled earlier old
      · rw [same] at earlier
        exact absurd earlier (invariant.gate_settled gate)
    | toUpstream codec query packet whole =>
      rcases ownEvent with ⟨same, writes⟩ | ⟨none, -⟩
      · subst same
        exact (quiet.cleared writes).append aside
      · subst none
        trivial
    | forwardGateWon query | stageEntered query stage
    | reconcileCancel query => exact absurd ownEvent.2 foreign
    | resent codec query packet whole => exact ownEvent.elim
    | _ => trivial
  · intro gate
    rcases effect.contexts gate with same | ⟨signed, same⟩
    · rw [same]
      exact invariant.gates gate
    · rw [same]
      exact quiet.unprepared signed
  · intro armed held
    by_cases writes : lane = .queryOnly
    · have kept := (effect.failover (by
          rintro (other | other) <;> simp [writes] at other)).1
      rw [kept] at held
      exact invariant.armed armed held
    · rcases effect.armed armed held with same | ⟨earlier, held, same⟩
      · rw [same]
        exact quiet.cleared writes
      · rw [same]
        exact invariant.armed earlier held
  · obtain ⟨generation, forwardGeneration⟩ := effect.generations foreign
    rw [generation, forwardGeneration]
    exact invariant.generations

/-! ## Rules -/

def gateRules : Rules State where
  invariant := GateInvariant
  rely := OtherEffect
  guarantee := fun _ _ => True

abbrev GateMeets {α : Type} (program : Code α) (ensures : α → State → Prop)
    (state : State) : Prop :=
  MeetsWhen (fun _ _ _ => True) gateRules program ensures state

/-- No query at all is as quiet as one that was never prepared. -/
theorem Quiet.idle {lane : Lane} (quiet : Quiet lane number state) : Quiet .ordinary 0 state where
  below := lt_of_le_of_lt (Nat.zero_le number) quiet.below
  zero := quiet.zero
  known := quiet.known
  unstopped := quiet.unstopped
  settled := fun stopped => absurd stopped quiet.zero.2
  cleared := fun _ => cleared_of_unprepared quiet.zero.1
  unprepared := nofun

/-- A query that its lane has not named is quiet in every other lane. -/
theorem Quiet.fresh
    {lane : Lane}
    {seen : List Event}
    (quiet : Quiet .ordinary 0 state)
    (untouched : Untouched number seen state)
    (unseen : ∀ event ∈ seen, event.isAgent = false) :
    Quiet lane number state := by
  have absent :
      ∀ event : Event, event.isAgent = true → event.Names number → event ∉ state.history := by
    intro event agent names member
    rw [unseen event (untouched.events event member names)] at agent
    cases agent
  exact
    { below := untouched.below
      zero := quiet.zero
      known := quiet.known
      unstopped := quiet.unstopped
      settled := fun stopped => absurd stopped (absent _ rfl rfl)
      cleared := fun _ => cleared_of_unprepared (absent _ rfl rfl)
      unprepared := fun _ => absent _ rfl rfl }

/-- A part of another lane, with a fact that no lane but the agent's ends. -/
theorem gate_bounded
    {α : Type}
    {lane : Lane}
    {result : α → Prop}
    {program : Code α}
    (foreign : lane ≠ .agent)
    (bounded : Bounded (LaneEffect lane number) result program)
    (quiet : Quiet lane number state) :
    GateMeets program (fun value final => result value ∧ Quiet lane number final) state :=
  meetsWhen_of_bounded bounded (fun _ _ relied quiet => quiet.other relied)
    (fun _ _ effect invariant quiet =>
      ⟨invariant.lane foreign quiet effect, trivial, quiet.lane foreign effect⟩)
    quiet

/-! ## The agent's lane -/

/-- What the pump knows of a query that it prepares. -/
structure Staged
    (number generation : Nat)
    (stage : Stage)
    (state : State) : Prop
    extends Quiet .queryOnly number state where
  positive : 0 < number
  entered : .prepareEntered number ∈ state.history
  began : .began number ∈ state.history
  slot : ∀ active, state.active = some active →
      .took number ∉ state.history ∧ (active.canceled = false → .canceled number ∉ state.history)
  uncanceled : .prepareCanceled number ∉ state.history
  stopless : .stageStopped number ∉ state.history
  unarmed : ∀ armed, state.failoverQuery = some armed → armed.number ≠ number
  gate : stage ≠ .authorizeForward →
      .forwardGateWon number ∉ state.history ∧ state.agentForwardGeneration ≠ generation
  won : stage = .authorizeForward → .forwardGateWon number ∈ state.history ∧
      ReturnedLive number .persistForwardIntent state.history ∧
      state.agentForwardGeneration = generation

/-- The authorization has not returned nil yet. -/
def Unreturned (number : Nat) (state : State) : Prop :=
  .stageReturned number .authorizeForward none ∉ state.history

/-- No worker of the query runs, and its authorization has not returned nil. -/
structure Resting (number : Nat) (state : State) : Prop where
  idle : ∀ stage, state.worker ≠ .running number stage
  unreturned : Unreturned number state

theorem Resting.calm (resting : Resting number before) (calm : Calm before after) :
    Resting number after where
  idle := fun stage running => resting.idle stage (calm.running running)
  unreturned := fun returned =>
    (calm.returned returned).elim resting.unreturned (resting.idle .authorizeForward)

variable {generation : Nat}

section Growth

variable (staged : Staged number generation stage before)

include staged

theorem Staged.grow (calm : Calm before after)
    (same : after.agentForwardGeneration = before.agentForwardGeneration)
    (slot : ∀ active, after.active = some active → before.active = some active ∧
          (.took number ∈ after.history → .took number ∈ before.history) ∧
          (.canceled number ∈ after.history → .canceled number ∈ before.history))
    (armed : ∀ armed, after.failoverQuery = some armed →
        ∃ earlier, before.failoverQuery = some earlier ∧ armed.number = earlier.number) :
    Staged number generation stage after where
  toQuiet := staged.toQuiet.calm calm
  positive := staged.positive
  entered := calm.aside.mem staged.entered
  began := calm.aside.mem staged.began
  slot := by
    intro active held
    obtain ⟨heldBefore, untaken, uncanceled⟩ := slot active held
    obtain ⟨unheld, kept⟩ := staged.slot active heldBefore
    exact ⟨fun member => unheld (untaken member),
      fun live member => kept live (uncanceled member)⟩
  uncanceled := fun member => staged.uncanceled (calm.aside.agent rfl member)
  stopless := fun member => staged.stopless (calm.aside.agent rfl member)
  unarmed := by
    intro query held
    obtain ⟨earlier, heldEarlier, sameNumber⟩ := armed query held
    rw [sameNumber]
    exact staged.unarmed earlier heldEarlier
  gate := by
    intro earlier
    obtain ⟨unwon, other⟩ := staged.gate earlier
    exact ⟨fun member => unwon (calm.aside.agent rfl member), same ▸ other⟩
  won := by
    intro last
    obtain ⟨won, persisted, own⟩ := staged.won last
    refine ⟨calm.aside.mem won, ?_, same.trans own⟩
    obtain ⟨events, grown⟩ := calm.aside.grows
    exact grown ▸ persisted.append

theorem Staged.other (effect : OtherEffect before after) :
    Staged number generation stage after := by
  obtain ⟨events, history, others, slot⟩ := effect.events
  apply staged.grow effect.calm effect.agentForwardGeneration
  · intro active held
    rcases slot with ⟨same, untaken⟩ | ⟨gone, -⟩
    · rw [history]
      exact ⟨same ▸ held,
        fun member => (mem_append.mp member).resolve_left (untaken _),
        fun member => (mem_append.mp member).resolve_left fun new => others _ new⟩
    · rw [gone] at held
      cases held
  · intro armed held
    obtain ⟨earlier, heldEarlier, same⟩ := effect.failoverQuery armed held
    exact ⟨earlier, heldEarlier, same.number⟩

/-- The worker of a stage starts. -/
theorem Staged.start :
    Staged number generation stage { before with
        worker := .running number stage
        history := .stageEntered number stage :: before.history } := by
  have entered : Staged number generation stage
      (before.record (.stageEntered number stage)) := by
    apply staged.grow (calm_record rfl rfl) rfl
    · intro active held
      exact ⟨held, fun member => (mem_cons.mp member).resolve_left nofun,
        fun member => (mem_cons.mp member).resolve_left nofun⟩
    · exact fun armed held => ⟨armed, held, rfl⟩
  refine { entered with unstopped := ?_ }
  intro query other running
  cases running
  exact entered.stopless

end Growth

/-! ## The worker of a stage -/

/-- A stage returned nil at some point after its query began. -/
def ReturnedFrom (number : Nat) (stage : Stage) (history : List Event) : Prop := ∃ later earlier,
    history = later ++ .stageReturned number stage none :: earlier ∧ .began number ∈ earlier

theorem ReturnedFrom.append {events history : List Event}
    (returned : ReturnedFrom number stage history) :
    ReturnedFrom number stage (events ++ history) := by
  obtain ⟨later, earlier, same, began⟩ := returned
  exact ⟨events ++ later, earlier, by rw [same, append_assoc], began⟩

/-- The worker of the stage runs, or has returned what it found. -/
structure Tended
    (number : Nat)
    (stage : Stage)
    (state : State) : Prop where
  began : .began number ∈ state.history
  own : ∀ query running, state.worker = .running query running →
      query = number ∧ running = stage ∧ Unreturned number state
  early : stage ≠ .authorizeForward → Unreturned number state
  failed : ∀ error plans, state.worker = .returned (some error) plans → Unreturned number state
  passed : ∀ plans, state.worker = .returned none plans →
      ReturnedFrom number stage state.history

/-- Steps of which no worker's return is one. -/
theorem Tended.silent {events : List Event}
    (tended : Tended number stage before)
    (worker : after.worker = before.worker)
    (history : after.history = events ++ before.history)
    (silent : ∀ event ∈ events, event.isReturn = false) :
    Tended number stage after := by
  have unreturned : Unreturned number before → Unreturned number after := by
    intro unreturned member
    rw [history] at member
    rcases mem_append.mp member with new | old
    · cases silent _ new
    · exact unreturned old
  exact
    { began := history ▸ mem_append_right _ tended.began
      own := by
        intro query running same
        obtain ⟨isOwn, isStage, open'⟩ := tended.own query running (worker ▸ same)
        exact ⟨isOwn, isStage, unreturned open'⟩
      early := fun earlier => unreturned (tended.early earlier)
      failed := fun error plans same => unreturned (tended.failed error plans (worker ▸ same))
      passed := fun plans same => history ▸ (tended.passed plans (worker ▸ same)).append }

/-- The worker returns, and nobody else does. -/
theorem Tended.returns
    {late early : List Event}
    {error : Option HookError}
    {plans : Plans}
    (tended : Tended number stage before)
    (running : before.worker = .running number stage)
    (worker : after.worker = .returned error plans)
    (history : after.history =
      (late ++ .stageReturned number stage error :: early) ++ before.history)
    (once : ∀ event ∈ late ++ early, event.isReturn = false) :
    Tended number stage after := by
  have unreturned : (stage = .authorizeForward → error ≠ none) → Unreturned number after := by
    intro other member
    rw [history] at member
    rcases mem_append.mp member with new | old
    · rcases mem_append.mp new with isLate | isRest
      · cases once _ (mem_append_left _ isLate)
      · rcases mem_cons.mp isRest with same | isEarly
        · cases same
          exact other rfl rfl
        · cases once _ (mem_append_right _ isEarly)
    · exact (tended.own _ _ running).2.2 old
  exact
    { began := history ▸ mem_append_right _ tended.began
      own := fun query other same => by
        rw [worker] at same
        cases same
      early := fun earlier => unreturned fun last => absurd last earlier
      failed := by
        intro failure plans same
        rw [worker] at same
        cases same
        exact unreturned fun _ => nofun
      passed := by
        intro plans same
        rw [worker] at same
        cases same
        refine ⟨late, early ++ before.history, ?_, mem_append_right _ tended.began⟩
        rw [history, append_assoc, cons_append] }

theorem Tended.other
    (tended : Tended number stage before)
    (effect : OtherEffect before after) :
    Tended number stage after := by
  obtain ⟨events, history, move⟩ := effect.worker
  generalize worker : after.worker = later at move
  cases move with
  | stay silent => exact tended.silent worker history silent
  | returned running recorded once =>
    obtain ⟨rfl, rfl, -⟩ := tended.own _ _ running
    exact tended.returns running worker (recorded ▸ history) once

/-- The query is live where the pump sees it so. -/
theorem Staged.live
    {preparation : Preparation}
    (staged : Staged number generation stage state)
    (live : state.agentLive preparation = true) : Live number state.history := by
  unfold State.agentLive at live
  cases held : state.active with
  | none => simp [held] at live
  | some active =>
    obtain ⟨unheld, uncanceled⟩ := staged.slot active held
    have kept : active.canceled = false := by
      simp only [held, Option.any_some, Bool.and_eq_true, Bool.not_eq_true'] at live
      exact live.1.1
    exact ⟨staged.began, unheld, uncanceled kept, staged.uncanceled⟩

/-- The pump looks whether its query is still live. -/
theorem gate_agentPrepareLive {fact : State → Prop} {later : Bool → State → Prop}
    (preparation : Preparation)
    (stable : ∀ before after, OtherEffect before after → fact before → fact after)
    (staged : Staged number generation stage state) (holds : fact state)
    (rest : ∀ live final, Staged number generation stage final →
        fact final → (live = true → Live number final.history) → later live final) :
    GateMeets (agentPrepareLive preparation) later state := by
  apply meetsWhen_observe
  intro before relied _
  have now := staged.other relied
  exact ⟨trivial, rest _ _ now (stable state before relied holds) now.live⟩

end HouseGate.Relay
