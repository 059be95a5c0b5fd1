import HouseGate.RelayAgentStages

namespace HouseGate.Relay

open DecimalText EffectProgram List

/-!
# The forward gate along every run

The client pump keeps the gate's rules from the admission of a query to its
end, so that they hold in every run of the relay.
-/

variable {state : State} {number : Nat} {before after : State} {context : QueryContext}
  {lane : Lane}

/-- Another query's part leaves a query as quiet as it was. -/
theorem gate_beside
    {α : Type}
    {own : Lane}
    {number other : Nat}
    {result : α → Prop}
    {program : Code α}
    (foreign : lane ≠ .agent)
    (bounded : Bounded (LaneEffect lane number) result program)
    (quiet : Quiet lane number state)
    (beside : Quiet own other state) :
    GateMeets program (fun value final => result value ∧ Quiet own other final) state := by
  have others : ∀ before after, gateRules.rely before after →
      Quiet lane number before ∧ Quiet own other before →
      Quiet lane number after ∧ Quiet own other after :=
    fun _ _ relied both => ⟨both.1.other relied, both.2.other relied⟩
  refine (meetsWhen_of_bounded bounded others ?_ ⟨quiet, beside⟩).weaken
    fun value final reached => ⟨reached.1, reached.2.2⟩
  intro before after effect invariant both
  exact ⟨invariant.lane foreign both.1 effect, trivial,
    both.1.lane foreign effect, both.2.lane foreign effect⟩

theorem queryOnly_foreign : Lane.queryOnly ≠ .agent := nofun

/-! ## The beginning of a preparation -/

/-- A query that holds the active slot and has met no gate yet. -/
structure Begun (number : Nat) (state : State) : Prop where
  positive : 0 < number
  below : number < state.queries
  quiet : Quiet .ordinary 0 state
  began : .began number ∈ state.history
  slot : ∀ active, state.active = some active →
      .took number ∉ state.history ∧ (active.canceled = false → .canceled number ∉ state.history)
  absent : ∀ event : Event, event.isAgent = true → event.Names number → event ∉ state.history
  gates : ∀ gate, (state.gate gate).context.number ≠ number
  armed : ∀ armed, state.failoverQuery = some armed → armed.number ≠ number
  resting : Resting number state

theorem Begun.other
    (begun : Begun number before)
    (effect : OtherEffect before after) :
    Begun number after := by
  obtain ⟨events, history, others, slot⟩ := effect.events
  refine ⟨begun.positive, effect.queries ▸ begun.below,
    begun.quiet.other effect, effect.aside.mem begun.began, ?_, ?_, ?_, ?_,
    begun.resting.calm effect.calm⟩
  · intro active held
    rcases slot with ⟨same, untaken⟩ | ⟨gone, -⟩
    · obtain ⟨unheld, uncanceled⟩ := begun.slot active (same ▸ held)
      rw [history]
      refine ⟨fun member => ?_, fun live member => ?_⟩
      · exact unheld ((mem_append.mp member).resolve_left (untaken _))
      · exact uncanceled live ((mem_append.mp member).resolve_left fun new => others _ new)
    · rw [gone] at held
      cases held
  · intro event agent names member
    exact begun.absent event agent names (effect.aside.agent agent member)
  · intro gate
    rw [(effect.gate gate).context]
    exact begun.gates gate
  · intro armed held
    obtain ⟨earlier, heldEarlier, same⟩ := effect.failoverQuery armed held
    rw [same.number]
    exact begun.armed earlier heldEarlier

theorem Begun.ended (begun : Begun number state) : Quiet .queryOnly number state where
  below := begun.below
  zero := begun.quiet.zero
  known := begun.quiet.known
  unstopped := begun.quiet.unstopped
  settled := fun stopped => absurd stopped (begun.absent _ rfl rfl)
  cleared := fun other => (other rfl).elim
  unprepared := nofun

/-- A query takes the free slot. -/
theorem Untouched.begin {seen : List Event} (untouched : Untouched number seen before)
    (quiet : Quiet .ordinary 0 before)
    (unseen : ∀ event ∈ seen, event.isAgent = false ∧ event.isReturn = false ∧
      event ≠ .took number ∧ event ≠ .canceled number)
    (history : after.history = .began number :: before.history)
    (queries : after.queries = before.queries) (gate : after.gate = before.gate)
    (failoverQuery : after.failoverQuery = before.failoverQuery)
    (worker : after.worker = before.worker) :
    Begun number after := by
  have old := mem_before history
  have calm : Calm before after :=
    @calm_of_silent [.began number] _ _ queries.ge history (forall_mem_singleton.mpr ⟨rfl, rfl⟩)
      fun running => worker ▸ running
  refine ⟨untouched.positive, queries ▸ untouched.below,
    quiet.calm calm, ?_, ?_, ?_, ?_, ?_, ?_⟩
  · rw [history]
    exact mem_cons_self
  · intro active _
    refine ⟨fun member => ?_, fun _ member => ?_⟩
    · exact (unseen _ (untouched.events _ (old (.took _) nofun member) rfl)).2.2.1 rfl
    · exact (unseen _ (untouched.events _ (old (.canceled _) nofun member) rfl)).2.2.2 rfl
  · intro event agent names member
    have other : event ≠ .began number := by
      rintro rfl
      cases agent
    have agentless := (unseen event (untouched.events event (old event other member) names)).1
    rw [agentless] at agent
    cases agent
  · rw [gate]
    exact untouched.gates
  · rw [failoverQuery]
    exact untouched.armed
  · refine ⟨fun stage running => untouched.working _ stage (worker ▸ running) rfl, ?_⟩
    intro member
    have silent := (unseen _ (untouched.events _ (old (.stageReturned ..) nofun member) rfl)).2.1
    cases silent

/-- The worker is started: from here on the gate guards the query. -/
theorem GateInvariant.enter (invariant : GateInvariant state) (begun : Begun number state) :
    GateInvariant (state.record (.prepareEntered number)) := by
  have own : LaneEvent .agent number state (.prepareEntered number) := ⟨rfl, rfl⟩
  have old : ∀ query, query ≠ number →
      .prepareEntered query ∈ (state.record (.prepareEntered number)).history →
      .prepareEntered query ∈ state.history := by
    intro query other member
    apply (mem_cons.mp member).resolve_left
    intro same
    cases same
    exact other rfl
  refine ⟨invariant.numbered.lane begun.below (.record own),
    ⟨trivial, invariant.chronicle⟩, ?_, ?_, ?_, invariant.generations⟩
  · intro query given
    apply mem_cons_of_mem
    apply invariant.entered query
    rcases given with canceled | stopped
    · exact .inl ((mem_cons.mp canceled).resolve_left nofun)
    · exact .inr ((mem_cons.mp stopped).resolve_left nofun)
  · intro gate member
    exact invariant.gates gate (old _ (begun.gates gate) member)
  intro armed held member
  obtain ⟨authorized, uncanceled⟩ :=
    invariant.armed armed held (old _ (begun.armed armed held) member)
  have still :
      Authorized armed.number ([.prepareEntered number] ++ state.history) := authorized.append
  exact ⟨still, fun canceled => uncanceled ((mem_cons.mp canceled).resolve_left nofun)⟩

theorem Begun.preparing
    {number generation : Nat} (begun : Begun number state)
    (fresh : state.agentForwardGeneration ≠ generation) :
    Preparing number generation (state.record (.prepareEntered number)) := by
  have old := @mem_before state (state.record (.prepareEntered number)) _ rfl
  have absent :
      ∀ event ∈ (state.record (.prepareEntered number)).history,
        event ≠ .prepareEntered number → event.isAgent = true → ¬event.Names number :=
    fun event member other agent names => begun.absent event agent names (old event other member)
  have positive := begun.positive
  refine ⟨?_, ?_⟩
  · exact
      { toQuiet := by
          refine begun.ended.cons rfl rfl rfl ?_ nofun nofun
          intro same
          cases same
          exact lt_irrefl 0 positive
        positive := begun.positive
        entered := mem_cons_self
        began := mem_cons_of_mem _ begun.began
        slot := by
          intro active held
          obtain ⟨unheld, uncanceled⟩ := begun.slot active held
          exact ⟨fun member => unheld (old _ nofun member),
            fun live member => uncanceled live (old _ nofun member)⟩
        uncanceled := fun member => absent _ member nofun rfl rfl
        stopless := fun member => absent _ member nofun rfl rfl
        unarmed := begun.armed
        gate := fun _ => ⟨fun member => absent _ member nofun rfl rfl, fresh⟩
        won := nofun }
  · exact ⟨begun.resting.idle, fun member => begun.resting.unreturned (old _ nofun member)⟩

/-- Nothing that admission recorded is about the slot or the gate. -/
theorem admittedEvents_unseen : ∀ event ∈ admittedEvents context,
    event.isAgent = false ∧ event.isReturn = false ∧
      event ≠ .took number ∧ event ≠ .canceled number := by
  intro event member
  simp only [admittedEvents, mem_cons, not_mem_nil, or_false] at member
  rcases member with rfl | rfl <;> exact ⟨rfl, rfl, nofun, nofun⟩

/-- A query that its admission alone has named. -/
theorem Quiet.admitted (quiet : Quiet .ordinary 0 state)
    (untouched : Untouched context.number (admittedEvents context) state) :
    Quiet lane context.number state :=
  quiet.fresh untouched fun event member =>
    (@admittedEvents_unseen context.number context event member).1

theorem gate_startPrepare
    (config : Config)
    (plan : AgentPreparePlan)
    (begun : Begun context.number state) :
    GateMeets (do
        let generation ← nextAgentPrepareGeneration
        if plan.hasPrepare then
          tell (.prepareEntered context.number)
          return some (.awaitPrepare context
            { plan := plan
              queryID := context.query.id
              generation := generation
              codec := 0 })
        else
          prepareFailed config context (.failed (config.refusal .agentPrepare)))
      GateHead state := by
  apply meetsWhen_bind
  apply meetsWhen_atomically
  intro before relied invariant
  have now := begun.other relied
  have next : Begun context.number { before with agentGeneration := before.agentGeneration + 1 } :=
    { now with
      quiet := { now.quiet with }
      resting := ⟨now.resting.idle, now.resting.unreturned⟩ }
  have fresh : before.agentForwardGeneration ≠ before.agentGeneration + 1 :=
    (Nat.lt_succ_of_le invariant.generations).ne
  refine ⟨?_, trivial, ?_⟩
  · exact ⟨invariant.numbered.lane now.below (.silent nofun),
        invariant.chronicle, invariant.entered, invariant.gates,
        invariant.armed, invariant.generations.trans (Nat.le_succ _)⟩
  split
  · apply meetsWhen_bind
    apply meetsWhen_atomically
    intro before relied invariant
    have now := next.other relied
    have still := OtherEffect.agentForwardGeneration relied
    refine ⟨invariant.enter now, trivial, ?_⟩
    exact meetsWhen_pure (now.preparing (still ▸ fresh))
  · exact gate_prepareFailed config _ next.ended

variable (config : Config)

theorem gate_runAgentPrepare
    (plan : AgentPreparePlan) (untouched : Untouched context.number (admittedEvents context) state)
    (quiet : Quiet .ordinary 0 state) :
    GateMeets (runAgentPrepare config context plan) GateHead state := by
  unfold runAgentPrepare
  split
  · exact gate_ends (quiet.admitted untouched) (lane_refuseAndLeave context _) queryOnly_foreign
  split
  · refine gate_ends (quiet.admitted untouched) ?_ queryOnly_foreign
    apply bounded_then (lane_refuse context _)
    exact bounded_pure (returns_endRejected context)
  apply meetsWhen_bind
  apply meetsWhen_atomically
  intro before relied invariant
  have untouchedNow := untouched.other relied
  have quietNow := quiet.other relied
  split
  · refine ⟨invariant, trivial, ?_⟩
    exact gate_ends (quietNow.admitted untouchedNow) (lane_refuseAndLeave context _)
      queryOnly_foreign
  rename_i busy
  have begun : Begun context.number { before with
          active := some ⟨context.number, context.packetID, false⟩
          history := .began context.number :: before.history } :=
    untouchedNow.begin quietNow admittedEvents_unseen rfl rfl rfl rfl rfl
  have effect : LaneEffect .agent context.number before { before with
          active := some ⟨context.number, context.packetID, false⟩
          history := .began context.number :: before.history } :=
    lane_begin busy
  refine ⟨?_, trivial, gate_startPrepare config plan begun⟩
  exact invariant.cons untouchedNow.below effect rfl rfl trivial
    nofun nofun nofun invariant.generations

/-! ## Rounds of the pump -/

/-- What the pump knows of the queries in its hands. -/
structure Held
    (locals : ClientLocals)
    (number : Nat)
    (state : State) : Prop where
  current : Quiet .ordinary number state
  rejected : ∀ rejected, locals.rejected = some rejected → Quiet .queryOnly rejected.number state

variable {locals : ClientLocals}

theorem Held.other
    (held : Held locals number before)
    (effect : OtherEffect before after) :
    Held locals number after :=
  ⟨held.current.other effect, fun rejected same => (held.rejected rejected same).other effect⟩

theorem Event.foreign_of_admission {event : Event} (admission : event.isAdmission = true) :
    event.isAgent = false ∧ event.isReturn = false := by
  cases event with
  | onQuery | planned | rebound => exact ⟨rfl, rfl⟩
  | _ => cases admission

theorem Quiet.admission
    (quiet : Quiet lane number before)
    (effect : AdmissionEffect before after) :
    Quiet lane number after := by
  obtain ⟨events, history, own⟩ := effect.events
  apply quiet.calm
  refine calm_of_silent effect.queries history ?_ fun running => effect.worker ▸ running
  exact fun event member => Event.foreign_of_admission (own event member).1

theorem GateInvariant.admission
    (invariant : GateInvariant before)
    (effect : AdmissionEffect before after) :
    GateInvariant after := by
  obtain ⟨events, history, own⟩ := effect.events
  apply invariant.extend (invariant.numbered.admission effect) history
  · intro event member
    exact (Event.foreign_of_admission (own event member).1).1
  · intro event rest member _ _
    have admission := (own event member).1
    cases event with
    | onQuery | planned | rebound => trivial
    | _ => cases admission
  · rw [effect.gates.2.1]
    exact invariant.gates
  · rw [effect.failoverQuery]
    exact invariant.armed
  · rw [effect.generations.1, effect.generations.2]
    exact invariant.generations

theorem gate_runPlans
    (compressed : Bool) (untouched : Untouched context.number (admittedEvents context) state)
    (quiet : Quiet .ordinary 0 state) :
    GateMeets (runPlans config context compressed) GateHead state := by
  apply meets_runPlans
  · intro program bounded
    exact gate_ends (quiet.admitted untouched) bounded nofun
  · intro plan _ _
    exact gate_runAgentPrepare config plan untouched quiet
  · intro plan _ _
    exact gate_ends (quiet.admitted untouched)
      (lane_runSynthesizedInsert config context compressed plan) nofun
  · intro limit _ _ _
    exact gate_ends (quiet.admitted untouched) (lane_runDeferredInsert config context limit) nofun
  · intro _ _ _
    exact gate_ends (quiet.admitted untouched) (lane_forwardUnplanned config context) nofun

theorem gate_admission (holds : locals.Holds number) :
    Admission (fun _ _ _ => True) gateRules config locals (Held locals number) GateHead where
  rely := fun _ _ relied => relied
  carried :=
    { others := fun _ _ relied held => held.other relied
      idle := fun _ _ => trivial }
  numbered := fun _ invariant => invariant.numbered
  steps := fun _ _ step invariant held =>
    ⟨invariant.admission step.effect, trivial, held.current.admission step.effect,
      fun rejected same => (held.rejected rejected same).admission step.effect⟩
  leaves := fun _ held => gate_ends held.current lane_leaveClient nofun
  unseen := by
    intro context error state untouched held
    have quiet : Quiet .queryOnly context.number state :=
      held.current.idle.fresh untouched (forall_mem_nil _)
    refine gate_ends quiet ?_ nofun
    apply bounded_then (lane_writeException _)
    exact lane_leaveClient
  interrupted := by
    intro current context error state same untouched held
    have quiet : Quiet .queryOnly context.number state :=
      held.current.idle.fresh untouched (forall_mem_nil _)
    have own := holds current same
    subst own
    apply meetsWhen_bind
    refine (gate_beside queryOnly_foreign (lane_writeException error) quiet held.current).weaken ?_
    rintro _ final ⟨-, current⟩
    refine gate_ends current ?_ nofun
    apply bounded_then (lane_abortAndComplete _)
    exact lane_leaveClient
  refused := by
    intro context error state untouched held
    have quiet : Quiet .queryOnly context.number state := by
      apply held.current.idle.fresh untouched
      intro event member
      cases mem_singleton.mp member
      rfl
    refine gate_ends quiet ?_ nofun
    apply bounded_then (lane_refuse context error)
    exact bounded_pure (returns_endRejected context)
  plans := fun _ compressed _ untouched held _ =>
    gate_runPlans config compressed untouched held.current.idle

theorem gate_clientToUpstream (holds : locals.Holds number) (held : Held locals number state) :
    GateMeets (clientToUpstream config locals) GateHead state := by
  have ordinary : Lane.ordinary ≠ .agent := nofun
  have round :
      Round (fun _ _ _ => True) gateRules config locals number (Held locals number) GateHead :=
    { holds := holds
      others := fun _ _ relied held => held.other relied
      packets := fun _ _ effect invariant held =>
        ⟨invariant.lane ordinary held.current effect, trivial, held.current.lane ordinary effect,
          fun rejected same => (held.rejected rejected same).lane ordinary effect⟩
      returns := by
        intro next state keeps held
        cases next with
        | none => exact ⟨held.current.known, held.current.unstopped⟩
        | some point =>
          cases point with
          | client later =>
            exact ⟨⟨number, keeps.1, held.current⟩,
              fun rejected same => held.rejected rejected (keeps.2 rejected same)⟩
          | _ => exact keeps.elim
      tooLarge := fun context state same held =>
        gate_ends (held.rejected context same) (lane_refuseAndLeave context _) queryOnly_foreign
      queries := fun query state held => (gate_admission config holds).clientQuery query held }
  exact round.clientToUpstream held

/-! ## Every run -/

variable {head : Option Point}

theorem GateHead.other
    (held : GateHead head before)
    (effect : OtherEffect before after) :
    GateHead head after := by
  cases head with
  | none => exact ⟨held.1.calm held.2 effect.calm, held.2.calm effect.calm⟩
  | some point =>
    cases point with
    | client locals =>
      obtain ⟨⟨number, holds, quiet⟩, rejected⟩ := held
      exact ⟨⟨number, holds, quiet.other effect⟩, fun context same =>
        (rejected context same).other effect⟩
    | awaitPrepare context preparation =>
      exact ⟨held.1.other effect, held.2.calm effect.calm⟩
    | agentStage context preparation stage forwardWon =>
      exact ⟨held.1.other effect, held.2.1.other effect, held.2.2⟩
    | queryOnly context markerSeen canceled | collect context collected
    | awaitSample forward | awaitTerminal forward => exact Quiet.other held effect
    | _ => exact held.elim

theorem GateHead.known (held : GateHead head state) : Known state.history := by
  cases head with
  | none => exact held.1
  | some point =>
    cases point with
    | client locals =>
      obtain ⟨⟨number, -, quiet⟩, -⟩ := held
      exact quiet.known
    | awaitPrepare context preparation | agentStage context preparation stage forwardWon =>
      exact held.1.known
    | queryOnly context markerSeen canceled | collect context collected
    | awaitSample forward | awaitTerminal forward => exact Quiet.known held
    | _ => exact held.elim

theorem gate_pointCode
    (point : Point)
    (state : State)
    (held : GateHead (some point) state) :
    GateMeets (pointCode config point) GateHead state := by
  cases point with
  | client locals =>
    obtain ⟨⟨number, holds, quiet⟩, rejected⟩ := held
    exact gate_clientToUpstream config holds ⟨quiet, rejected⟩
  | awaitPrepare context preparation => exact gate_awaitPrepare config held
  | agentStage context preparation stage forwardWon =>
    exact gate_agentStage config ⟨held.1, held.2.1⟩ held.2.2
  | queryOnly context markerSeen canceled =>
    exact gate_ends held (lane_queryOnly config context markerSeen canceled) nofun
  | collect context collected =>
    exact gate_ends held (lane_collect config context _ collected) nofun
  | awaitSample forward => exact gate_ends held (lane_awaitSample config forward) nofun
  | awaitTerminal forward => exact gate_ends held (lane_awaitTerminal forward) nofun
  | _ => exact held.elim

abbrev gateContract := clientContract (fun _ _ _ _ => True) GateInvariant GateHead

theorem gateContract_run (logicalDatabase : Bytes) (inputs : List (Thread × Answer)) :
    gateContract.Holds (run config logicalDatabase inputs) := by
  have kept : gateContract.Kept (relayCode config) :=
    clientContract_kept config (fun _ _ effect invariant => invariant.other effect)
      (fun _ _ _ effect held => held.other effect)
      (fun point state _ held => gate_pointCode config point state held)
  have initial : gateContract.Holds (started config logicalDatabase) := by
    refine ⟨?_, ?_⟩
    · exact
        { numbered := numbered_initial _ _
          chronicle := trivial
          entered := fun _ given => given.elim (absurd · not_mem_nil) (absurd · not_mem_nil)
          gates := fun _ => not_mem_nil
          armed := by
            intro armed held
            cases held
          generations := le_rfl }
    · intro thread
      cases thread with
      | client =>
        have quiet : Quiet .ordinary 0 (.initial config.hasFailover logicalDatabase) :=
          { below := Nat.one_pos
            zero := ⟨not_mem_nil, not_mem_nil⟩
            known := fun _ stopped => absurd stopped not_mem_nil
            unstopped := nofun
            settled := fun stopped => absurd stopped not_mem_nil
            cleared := fun _ entered => absurd entered not_mem_nil
            unprepared := fun _ => not_mem_nil }
        refine ⟨⟨0, ?_, quiet⟩, ?_⟩
        · intro current same
          cases same
        · intro rejected same
          cases same
      | upstream => exact otherPoint_upstream
      | worker => rfl
      | supervisor | probe | shutdown => exact .inr rfl
  exact initial.run kept (ProgramPool.Contract.admits_of_inputs fun _ _ _ _ => trivial)

/--
In every run an agent-prepared query goes upstream only past its gate, a
cancellation keeps the gate shut, a winner whose cancellation was observed is
not reconciled, and one that was stopped and joined while it was authorized is
not aborted but persisted as unknown.
-/
theorem forward_gate_kept
    (config : Config)
    (logicalDatabase : Bytes)
    (inputs : List (Thread × Answer)) :
    Chronicle GatePermitted (run config logicalDatabase inputs).shared.history ∧
      ∀ next, (run config logicalDatabase inputs).programs .client = .done next →
        Known (run config logicalDatabase inputs).shared.history := by
  have holds := gateContract_run config logicalDatabase inputs
  refine ⟨holds.invariant.chronicle, ?_⟩
  intro next resting
  have client := holds.threads .client
  rw [resting] at client
  have head : GateHead next (run config logicalDatabase inputs).shared := client
  exact head.known

/-- In every run a prepared query keeps out of the input gates, and failover waits for its gate. -/
theorem prepared_query_own_lane
    (config : Config)
    (logicalDatabase : Bytes)
    (inputs : List (Thread × Answer)) :
    let state := (run config logicalDatabase inputs).shared
    (∀ gate, .prepareEntered (state.gate gate).context.number ∉ state.history) ∧
      ∀ armed, state.failoverQuery = some armed → Cleared armed.number state.history := by
  have invariant := (gateContract_run config logicalDatabase inputs).invariant
  exact ⟨invariant.gates, invariant.armed⟩

/-! ## An authorization that fails -/

def preparingConfig : Config where
  wording := fun _ => []
  queryMayStreamClientData := fun _ => false
  supportsContinuation := true
  hasFailover := false
  parseSampleColumns := fun _ => none
  isSessionPreserving := fun _ => false

def preparedQuery : Query where
  id := [1]
  body := []
  compressed := false
  signed := true

def preparedPlans : Plans := { Plans.none with
    agentPrepare := some { hasPrepare := true, hasReconcileCancel := true } }

/-- Each answer comes after some steps of its thread without one. -/
def turns (answers : List (Nat × Thread × Answer)) : List (Thread × Answer) :=
  answers.flatMap fun answer => replicate answer.1 (answer.2.1, .tick) ++ [answer.2]

/-- The gate is won, and then `AuthorizeForward` itself returns an error. -/
def refusedAuthorization : List (Thread × Answer) :=
  turns [(2, .client, .limit none),
    (0, .client, .clientRead (.packet (.query preparedQuery))),
    (5, .client, .queryHook (.ok ([1], preparedQuery, preparedPlans)) false),
    (4, .client, .prepared (.ok (some preparedQuery)) false),
    (4, .client, .tick),
    (1, .worker, .stage none preparedPlans),
    (6, .client, .tick),
    (1, .worker, .stage none preparedPlans),
    (7, .client, .tick),
    (1, .worker, .stage (some ⟨[], none, false⟩) preparedPlans),
    (7, .client, .tick)]

/-- The ordinary abort ends a query that had won its gate. -/
theorem gate_winner_aborted : ((run preparingConfig [] refusedAuthorization).shared.history.drop
    1).head? = some (.onQueryAbort 1 false) ∧
      .forwardGateWon 1 ∈ (run preparingConfig [] refusedAuthorization).shared.history.drop 2 := by
  decide +kernel

end HouseGate.Relay
