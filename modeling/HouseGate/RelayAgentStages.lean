import HouseGate.RelayAgentGate

namespace HouseGate.Relay

open EffectProgram State List OtherEffect

/-!
# The stages of an agent-prepared query

Each stage of the agent's lane keeps the gate's rules, whatever its worker
answers and whatever the client and the upstream do meanwhile.
-/

/-! ## Ends of the lane -/

/-- What follows a lane that has left the gate's rules behind. -/
def GateHead (next : Option Point) (state : State) : Prop :=
  match next with
  | none => Known state.history ∧ Unstopped state
  | some (.client locals) =>
    (∃ number, locals.Holds number ∧ Quiet .ordinary number state) ∧
      ∀ rejected, locals.rejected = some rejected → Quiet .queryOnly rejected.number state
  | some (.awaitPrepare context preparation) =>
    Staged context.number preparation.generation .resumeQuery state ∧
      Resting context.number state
  | some (.agentStage context preparation stage forwardWon) =>
    Staged context.number preparation.generation stage state ∧
      Tended context.number stage state ∧ (forwardWon = true ↔ stage = .authorizeForward)
  | some (.queryOnly context _ _) => Quiet .queryOnly context.number state
  | some (.collect context _) => Quiet .signed context.number state
  | some (.awaitSample forward) | some (.awaitTerminal forward) =>
    Quiet .signed forward.context.number state
  | some _ => False

variable {state : State} {stage : Stage} {context : QueryContext} {number : Nat}
  {preparation : Preparation} {before after : State} {error : Option HookError}
  {lane : Lane}

theorem gateHead_of_returns
    {next : Option Point}
    (foreign : lane ≠ .agent)
    (returns : Returns lane number next)
    (quiet : Quiet lane number state) :
    GateHead next state := by
  cases next with
  | none => exact ⟨quiet.known, quiet.unstopped⟩
  | some point =>
    cases point with
    | client locals =>
      refine ⟨?_, ?_⟩
      · cases held : locals.current with
        | none =>
          refine ⟨0, ?_, quiet.idle⟩
          intro current same
          rw [held] at same
          cases same
        | some current =>
          obtain ⟨-, splices⟩ := returns.1 current held
          have ordinary : lane = .ordinary := splices.resolve_right foreign
          refine ⟨number, ?_, ordinary ▸ quiet⟩
          intro other same
          exact (returns.1 other same).1
      · intro rejected same
        rw [returns.2 rejected same]
        exact { quiet with cleared := fun other => (other rfl).elim, unprepared := nofun }
    | awaitPrepare | agentStage => exact absurd returns.2 foreign
    | queryOnly context markerSeen canceled | collect context collected
    | awaitSample forward | awaitTerminal forward =>
      obtain ⟨rfl, rfl⟩ := returns
      exact quiet
    | _ => exact returns.elim

/-- The rest of a query in another lane. -/
theorem gate_ends {program : Code (Option Point)} (quiet : Quiet lane number state)
    (bounded : LaneReturns lane number program) (foreign : lane ≠ .agent) :
    GateMeets program GateHead state :=
  (gate_bounded foreign bounded quiet).weaken fun _ _ reached =>
    gateHead_of_returns foreign reached.1 reached.2

/-- A query that was given up, and what may still be said of it. -/
structure Failing (number : Nat) (state : State) : Prop where
  quiet : Quiet .queryOnly number state
  reconcilable : .forwardGateWon number ∈ state.history → .prepareCanceled number ∉ state.history

variable {events : List Event}

theorem Failing.calm (failing : Failing number before) (calm : Calm before after) :
    Failing number after :=
  ⟨failing.quiet.calm calm, fun won canceled =>
    failing.reconcilable (calm.aside.agent rfl won) (calm.aside.agent rfl canceled)⟩

/-- One event of the agent's lane. -/
theorem GateInvariant.cons
    {event : Event}
    (invariant : GateInvariant before)
    (below : number < before.queries)
    (effect : LaneEffect .agent number before after)
    (history : after.history = event :: before.history)
    (failover : after.failoverQuery = before.failoverQuery)
    (permitted : GatePermitted event before.history)
    (entering : ∀ query, event ≠ .prepareEntered query)
    (giving : ∀ query, event = .prepareCanceled query ∨ event = .stageStopped query →
        .prepareEntered query ∈ before.history)
    (canceling : ∀ query, event = .prepareCanceled query →
        ∀ armed, before.failoverQuery = some armed → armed.number ≠ query)
    (generations : after.agentForwardGeneration ≤ after.agentGeneration) :
    GateInvariant after := by
  have enteredBefore :
      ∀ query, .prepareEntered query ∈ after.history → .prepareEntered query ∈ before.history := by
    intro query member
    rw [history] at member
    rcases mem_cons.mp member with same | old
    · exact absurd same.symm (entering query)
    · exact old
  refine ⟨invariant.numbered.lane below effect, ?_, ?_, ?_, ?_, generations⟩
  · rw [history]
    exact ⟨permitted, invariant.chronicle⟩
  · intro query given
    rw [history] at given ⊢
    apply mem_cons_of_mem
    rcases given with canceled | stopped
    · rcases mem_cons.mp canceled with same | old
      · exact giving query (.inl same.symm)
      · exact invariant.entered query (.inl old)
    · rcases mem_cons.mp stopped with same | old
      · exact giving query (.inr same.symm)
      · exact invariant.entered query (.inr old)
  · intro gate member
    rcases effect.contexts gate with same | ⟨signed, -⟩
    · rw [same] at member
      exact invariant.gates gate (enteredBefore _ member)
    · cases signed
  · intro armed held entered
    rw [failover] at held
    obtain ⟨authorized, uncanceled⟩ := invariant.armed armed held (enteredBefore _ entered)
    have still : Authorized armed.number ([event] ++ before.history) := authorized.append
    rw [history]
    refine ⟨still, ?_⟩
    intro canceled
    rcases mem_cons.mp canceled with same | old
    · exact canceling _ same.symm armed held rfl
    · exact uncanceled old

/-- The pump takes the result of a worker. -/
theorem GateInvariant.take (invariant : GateInvariant state) :
    GateInvariant { state with worker := .idle } :=
  { invariant with numbered := { invariant.numbered with working := nofun } }

variable {later : Unit → State → Prop}

/-- What is stable under the others' steps is true after the reconciliation. -/
theorem gate_reconcile (fact : State → Prop) (preparation : Preparation)
    (others : ∀ before after, OtherEffect before after → fact before → fact after)
    (record : ∀ state, fact state → fact (state.record (.reconcileCancel context.number)))
    (failing : ∀ state, fact state → Failing context.number state) (holds : fact state)
    (rest : ∀ final, fact final → later () final) :
    GateMeets (reconcileAgentPrepareCancel context preparation) later state := by
  apply meetsWhen_atomically
  intro before relied invariant
  have now : fact before := others state before relied holds
  split
  · have own :
        LaneEvent .agent context.number before (.reconcileCancel context.number) := ⟨rfl, rfl⟩
    refine ⟨?_, trivial, rest _ (record before now)⟩
    exact invariant.cons (failing before now).quiet.below (.record own) rfl
      rfl (failing before now).reconcilable nofun nofun nofun invariant.generations
  · exact ⟨invariant, trivial, rest _ now⟩

/-- A query that fails may be reconciled. -/
theorem gate_reconcileFailing (preparation : Preparation)
    (failing : Failing context.number state)
    (rest : ∀ final, Failing context.number final → later () final) :
    GateMeets (reconcileAgentPrepareCancel context preparation) later state :=
  gate_reconcile _ preparation (fun _ _ relied failing => failing.calm relied.calm)
    (fun _ failing => failing.calm (calm_record rfl rfl)) (fun _ failing => failing) failing rest

/-- A part of the end that no gate rule speaks of. -/
theorem gate_failing
    {α : Type}
    {program : Code α}
    {later : α → State → Prop}
    (bounded : Within (LaneEffect .queryOnly number) program)
    (failing : Failing number state)
    (rest : ∀ value final, Failing number final → later value final) :
    GateMeets program later state := by
  have others :
      ∀ before after, gateRules.rely before after → Failing number before → Failing number after :=
    fun _ _ relied failing => failing.calm relied.calm
  refine (meetsWhen_of_bounded bounded others ?_ failing).weaken
    fun value final reached => rest value final reached.2
  intro before after effect invariant failing
  have foreign : Lane.queryOnly ≠ .agent := nofun
  exact ⟨invariant.lane foreign failing.quiet effect, trivial,
    failing.calm (effect.calm foreign)⟩

variable (config : Config)

theorem gate_applyFailed (preparation : Preparation) (error : AgentError)
    (quiet : Quiet .queryOnly context.number state)
    (reconcilable : error = .canceled → .forwardGateWon context.number ∈ state.history →
      .prepareCanceled context.number ∉ state.history) :
    GateMeets (applyFailed config context preparation error) GateHead state := by
  by_cases canceled : error = .canceled
  · subst canceled
    have failing : Failing context.number state := ⟨quiet, reconcilable rfl⟩
    apply meetsWhen_bind
    apply gate_failing lane_takeActiveQuery failing
    intro _ final failing
    apply meetsWhen_bind
    apply gate_reconcileFailing preparation failing
    intro final failing
    exact gate_ends failing.quiet (lane_agentCanceled context) nofun
  · refine gate_ends quiet ?_ nofun
    apply bounded_then lane_takeActiveQuery
    cases error with
    | canceled => exact absurd rfl canceled
    | forwardUnknown | eof | failed error => exact lane_refuseAndLeave context _

/-! ## Stages -/

theorem stageFailed_eq
    (context : QueryContext)
    (preparation : Preparation)
    (stage : Stage)
    {error : AgentError}
    (known : error ≠ .forwardUnknown) :
    stageFailed config context preparation stage error =
      applyFailed config context preparation error := by
  cases stage with
  | resumeQuery | persistForwardIntent => rfl
  | authorizeForward =>
    cases error with
    | forwardUnknown => exact absurd rfl known
    | canceled | eof | failed error => rfl

theorem gate_stageFailed
    (preparation : Preparation)
    (stage : Stage)
    {error : AgentError}
    (known : error ≠ .forwardUnknown)
    (quiet : Quiet .queryOnly context.number state)
    (reconcilable : error = .canceled → .forwardGateWon context.number ∈ state.history →
      .prepareCanceled context.number ∉ state.history) :
    GateMeets (stageFailed config context preparation stage error) GateHead state := by
  rw [stageFailed_eq config context preparation stage known]
  exact gate_applyFailed config preparation error quiet reconcilable

variable {generation : Nat}

/-- A query that was not canceled may always be reconciled. -/
theorem Staged.failed
    {error : AgentError}
    (staged : Staged context.number generation stage state)
    (config : Config)
    (preparation : Preparation)
    (failedStage : Stage)
    (known : error ≠ .forwardUnknown) :
    GateMeets (stageFailed config context preparation failedStage error) GateHead state :=
  gate_stageFailed config preparation failedStage known staged.toQuiet fun _ _ => staged.uncanceled

theorem gate_startStage (staged : Staged context.number preparation.generation stage state)
    (resting : Resting context.number state) :
    GateMeets (startStage config context preparation stage) GateHead state := by
  apply meetsWhen_bind
  apply gate_agentPrepareLive preparation (fun _ _ relied resting => resting.calm relied.calm)
    staged resting
  intro live state staged resting isLive
  split
  · apply meetsWhen_bind
    apply meetsWhen_atomically
    intro before relied invariant
    have now := staged.other relied
    have unreturned := (resting.calm relied.calm).unreturned
    have permitted : GatePermitted (.stageEntered context.number stage)
        before.history := by
      cases stage with
      | resumeQuery | persistForwardIntent => trivial
      | authorizeForward => exact ⟨(now.won rfl).1, now.uncanceled⟩
    refine ⟨invariant.cons now.below .work rfl rfl permitted
      nofun nofun nofun invariant.generations, trivial, ?_⟩
    have entered := now.start
    have silent : Unreturned context.number { before with
        worker := .running context.number stage
        history := .stageEntered context.number stage :: before.history } :=
      fun member => unreturned ((mem_cons.mp member).resolve_left nofun)
    have tended : Tended context.number stage { before with
        worker := .running context.number stage
        history := .stageEntered context.number stage :: before.history } :=
      { began := entered.began
        own := fun query running same => by
          cases same
          exact ⟨rfl, rfl, silent⟩
        early := fun _ => silent
        failed := nofun
        passed := nofun }
    apply meetsWhen_bind
    apply meetsWhen_observe
    intro before relied _
    refine ⟨trivial, ?_⟩
    have now := entered.other relied
    refine meetsWhen_pure ⟨now, tended.other relied, ?_⟩
    rw [beq_iff_eq]
    constructor
    · intro same
      by_contra earlier
      exact (now.gate earlier).2 same
    · intro last
      exact (now.won last).2.2
  · exact staged.failed config preparation stage nofun

/-- The gate is won by a live query, whose preparation it then names. -/
theorem Staged.win (staged : Staged number preparation.generation .persistForwardIntent before)
    (persisted : ReturnedLive number .persistForwardIntent before.history)
    (history : after.history = .forwardGateWon number :: before.history)
    (queries : after.queries = before.queries)
    (generation : after.agentForwardGeneration = preparation.generation)
    (active : after.active = before.active)
    (worker : after.worker = before.worker)
    (failover : after.failoverQuery = before.failoverQuery) :
    Staged number preparation.generation .authorizeForward after := by
  have old := mem_before history
  have monotone : ∀ event ∈ before.history, event ∈ after.history := by
    intro event member
    rw [history]
    exact mem_cons_of_mem _ member
  have still : ReturnedLive number .persistForwardIntent
      ([.forwardGateWon number] ++ before.history) := persisted.append
  exact
    { toQuiet := staged.toQuiet.cons history queries worker nofun nofun nofun
      positive := staged.positive
      entered := monotone _ staged.entered
      began := monotone _ staged.began
      slot := by
        intro query held
        obtain ⟨unheld, uncanceled⟩ := staged.slot query (active ▸ held)
        exact ⟨fun member => unheld (old _ nofun member),
          fun live member => uncanceled live (old _ nofun member)⟩
      uncanceled := fun member => staged.uncanceled (old _ nofun member)
      stopless := fun member => staged.stopless (old _ nofun member)
      unarmed := fun armed held => staged.unarmed armed (failover ▸ held)
      gate := fun other => absurd rfl other
      won := by
        intro _
        rw [history]
        exact ⟨mem_cons_self, still, generation⟩ }

variable (staged : Staged context.number preparation.generation .persistForwardIntent state)

include staged

theorem gate_authorizeAgentForward (resting : Resting context.number state)
    (persisted : ReturnedLive context.number .persistForwardIntent state.history) :
    GateMeets (authorizeAgentForward config context preparation) GateHead state := by
  apply meetsWhen_bind
  apply meetsWhen_atomically
  intro before relied invariant
  have now := staged.other relied
  have stillResting := resting.calm relied.calm
  have stillPersisted : ReturnedLive context.number .persistForwardIntent
      before.history := by
    obtain ⟨events, history, -, -⟩ := events relied
    rw [history]
    exact persisted.append
  split
  · rename_i live
    have current : before.agentGeneration = preparation.generation := by
      unfold agentLive at live
      rw [Bool.and_eq_true, beq_iff_eq] at live
      exact live.2
    have own : LaneEffect .agent context.number before { before with
        agentForwardGeneration := preparation.generation
        history := .forwardGateWon context.number :: before.history } :=
      .event ⟨rfl, rfl⟩ .stay (fun _ => .inl rfl) fun other => (other rfl).elim
    refine ⟨?_, trivial, ?_⟩
    · exact invariant.cons now.below own rfl rfl (now.live live)
        nofun nofun nofun (le_of_eq current.symm)
    apply gate_startStage config
    · exact now.win stillPersisted rfl rfl rfl rfl rfl rfl
    · exact ⟨stillResting.idle, fun member =>
        stillResting.unreturned ((mem_cons.mp member).resolve_left nofun)⟩
  · refine ⟨invariant, trivial, ?_⟩
    exact now.failed config preparation .authorizeForward nofun

/-- What follows the hooks of a prepared query. -/
theorem gate_forwardPrepared (resting : Resting context.number state)
    (persisted : ReturnedLive context.number .persistForwardIntent state.history) :
    GateMeets (forwardPrepared config context preparation) GateHead state := by
  unfold forwardPrepared
  split
  · refine gate_ends staged.toQuiet ?_ nofun
    apply bounded_then lane_takeActiveQuery
    exact lane_refuseAndResume context _
  split
  · exact gate_ends staged.toQuiet (lane_refusePrepared config context) nofun
  split
  · exact gate_ends staged.toQuiet (lane_abortWithSuccess context) nofun
  split
  · exact gate_ends staged.toQuiet (lane_refusePrepared config context) nofun
  apply meetsWhen_bind
  apply meetsWhen_observe
  intro before relied _
  refine ⟨trivial, ?_⟩
  refine gate_authorizeAgentForward config ?_ ?_ ?_
  · exact staged.other relied
  · exact resting.calm relied.calm
  · obtain ⟨events, history, -, -⟩ := events relied
    rw [history]
    exact persisted.append

omit staged

variable {history : List Event}

/-- A query that is live now was live when its stage returned. -/
theorem ReturnedFrom.live
    (returned : ReturnedFrom number stage history)
    (live : Live number history) :
    ReturnedLive number stage history := by
  obtain ⟨later, earlier, same, began⟩ := returned
  have sooner : ∀ event ∈ earlier, event ∈ history := by
    intro event member
    rw [same]
    exact mem_append_right _ (mem_cons_of_mem _ member)
  exact ⟨later, earlier, same, began,
    fun member => live.held (sooner _ member),
    fun member => live.kept (sooner _ member),
    fun member => live.uncanceled (sooner _ member)⟩

/-- Both stages returned nil for a query that won the gate. -/
theorem Staged.authorized {number : Nat} (staged : Staged number generation .authorizeForward state)
    (authorized : ReturnedLive number .authorizeForward state.history) :
    Quiet .ordinary number state :=
  { staged.toQuiet with
    cleared := fun _ _ =>
      ⟨⟨(staged.won rfl).1, (staged.won rfl).2.1, authorized⟩, staged.uncanceled⟩
    unprepared := nofun }

/-- What is known once the pump has the result of a stage's worker. -/
structure Returned
    (number generation : Nat)
    (stage : Stage)
    (error : Option HookError)
    (state : State) : Prop where
  staged : Staged number generation stage state
  from_nil : error = none → ReturnedFrom number stage state.history
  resting : stage ≠ .authorizeForward → Resting number state

theorem Returned.other
    {number : Nat}
    (returned : Returned number generation stage error before)
    (effect : OtherEffect before after) :
    Returned number generation stage error after := by
  refine ⟨returned.staged.other effect, ?_,
    fun earlier => (returned.resting earlier).calm effect.calm⟩
  intro nil
  obtain ⟨events, history, -, -⟩ := effect.events
  rw [history]
  exact (returned.from_nil nil).append

theorem gate_stagePassed
    (returned : Returned context.number preparation.generation stage none state)
    (live : Live context.number state.history) :
    GateMeets (stagePassed config context preparation stage) GateHead state := by
  cases stage with
  | resumeQuery =>
    apply meetsWhen_bind
    apply gate_agentPrepareLive preparation (fun _ _ relied resting => resting.calm relied.calm)
      returned.staged (returned.resting nofun)
    intro stillLive state staged resting _
    split
    · -- before the gate one stage is like another
      exact gate_startStage config
        { staged with gate := fun _ => staged.gate nofun, won := nofun } resting
    · exact gate_applyFailed config preparation .canceled staged.toQuiet
        fun _ _ => staged.uncanceled
  | persistForwardIntent =>
    exact gate_forwardPrepared config returned.staged
      (returned.resting nofun) ((returned.from_nil rfl).live live)
  | authorizeForward =>
    exact gate_ends (returned.staged.authorized ((returned.from_nil rfl).live live))
      (lane_forwardOrdinary config preparation.codec context (.inl rfl))
      nofun

theorem gate_stageDone
    (returned : Returned context.number preparation.generation stage error state) :
    GateMeets (stageDone config context preparation stage error) GateHead state := by
  apply meetsWhen_bind
  apply gate_agentPrepareLive preparation
    (fun _ _ relied returned => Returned.other returned relied)
    returned.staged returned
  intro live state staged returned isLive
  split
  · rename_i live
    cases error with
    | some error => exact staged.failed config preparation stage nofun
    | none => exact gate_stagePassed config returned (isLive live)
  · have failing : Failing context.number state := ⟨staged.toQuiet, fun _ => staged.uncanceled⟩
    apply meetsWhen_bind
    apply gate_reconcileFailing preparation failing
    intro final failing
    exact gate_stageFailed config preparation stage nofun failing.quiet
      fun _ => failing.reconcilable

/-- The pump takes the result of the worker of its stage. -/
theorem Staged.returned {plans : Plans}
    (staged : Staged number generation stage state)
    (tended : Tended number stage state)
    (worker : state.worker = .returned error plans) :
    Returned number generation stage error { state with worker := .idle } where
  staged := { staged with unstopped := nofun }
  from_nil := by
    rintro rfl
    exact tended.passed plans worker
  resting := fun earlier => ⟨nofun, tended.early earlier⟩

theorem gate_pollStage {later : Option (Option HookError × Plans) → State → Prop}
    (staged : Staged number generation stage state)
    (tended : Tended number stage state)
    (running : ∀ final, Staged number generation stage final →
        Tended number stage final → later none final)
    (returned : ∀ error plans final, Returned number generation stage error final →
        later (some (error, plans)) final) :
    GateMeets pollStage later state := by
  apply meetsWhen_atomically
  intro before relied invariant
  have now := staged.other relied
  have stillTended := tended.other relied
  split
  · rename_i error plans worker
    exact ⟨invariant.take, trivial, returned error plans _ (now.returned stillTended worker)⟩
  · exact ⟨invariant, trivial, running _ now stillTended⟩

/-! ## Cancellation -/

/-- A query that its client has given up while it was prepared. -/
structure Dropped
    (number : Nat)
    (stage : Stage)
    (state : State) : Prop
    extends Quiet .queryOnly number state where
  positive : 0 < number
  stopless : .stageStopped number ∉ state.history
  entered : .prepareEntered number ∈ state.history
  gate : stage ≠ .authorizeForward → .forwardGateWon number ∉ state.history

theorem Dropped.calm (dropped : Dropped number stage before) (calm : Calm before after) :
    Dropped number stage after where
  toQuiet := dropped.toQuiet.calm calm
  positive := dropped.positive
  stopless := fun member => dropped.stopless (calm.aside.agent rfl member)
  entered := calm.aside.mem dropped.entered
  gate := fun earlier member => dropped.gate earlier (calm.aside.agent rfl member)

theorem cancelGeneration_fields (state : State) (preparation : Preparation) :
    (state.cancelGeneration preparation).history = state.history ∧
      (state.cancelGeneration preparation).queries = state.queries ∧
      (state.cancelGeneration preparation).worker = state.worker ∧
      (state.cancelGeneration preparation).failoverQuery = state.failoverQuery ∧
      (state.cancelGeneration preparation).agentForwardGeneration = state.agentForwardGeneration ∧
      (state.cancelGeneration preparation).agentGeneration = state.agentGeneration := by
  unfold cancelGeneration
  split
  · exact ⟨rfl, rfl, rfl, rfl, rfl, rfl⟩
  · split <;> exact ⟨rfl, rfl, rfl, rfl, rfl, rfl⟩

theorem Staged.drop {number : Nat} (staged : Staged number generation stage before)
    (queries : after.queries = before.queries) (worker : after.worker = before.worker)
    (history : after.history = .prepareCanceled number :: before.history) :
    Dropped number stage after := by
  have old := mem_before history
  exact
    { toQuiet := staged.toQuiet.cons history queries worker nofun nofun nofun
      positive := staged.positive
      stopless := fun member => staged.stopless (old _ nofun member)
      entered := history ▸ mem_cons_of_mem _ staged.entered
      gate := fun earlier member => (staged.gate earlier).1 (old _ nofun member) }

/-- The client gives its query up; what is true of the worker stays true. -/
theorem gate_cancelAgentPrepare (fact : State → Prop)
    (staged : Staged context.number preparation.generation stage state)
    (others : ∀ before after, OtherEffect before after → fact before → fact after)
    (silent : ∀ {before after : State} {event : Event}, fact before →
        after.worker = before.worker → after.history = event :: before.history →
        event.isReturn = false → fact after)
    (holds : fact state)
    (rest : ∀ final, Dropped context.number stage final → fact final → later () final) :
    GateMeets (cancelAgentPrepare context preparation) later state := by
  apply meetsWhen_bind
  apply meetsWhen_atomically
  intro before relied invariant
  have now := staged.other relied
  obtain ⟨history, queries, worker, failover, forward, generation⟩ :=
    cancelGeneration_fields before preparation
  have dropped : Dropped context.number stage
      ((before.cancelGeneration preparation).record (.prepareCanceled context.number)) :=
    now.drop queries worker (congrArg _ history)
  have stillHolds :
      fact ((before.cancelGeneration preparation).record (.prepareCanceled context.number)) :=
    silent (others state before relied holds) worker (congrArg _ history) rfl
  refine ⟨?_, trivial, ?_⟩
  · apply invariant.cons now.below (lane_cancelGeneration before preparation)
      (congrArg _ history) failover trivial nofun
    · rintro query (same | same)
      · cases same
        exact now.entered
      · cases same
    · intro query same
      cases same
      exact now.unarmed
    · exact forward.trans_le (invariant.generations.trans_eq generation.symm)
  · split
    · exact meetsWhen_pure (rest _ dropped stillHolds)
    rename_i unwon
    have earlier : stage ≠ .authorizeForward := by
      intro last
      exact unwon (beq_iff_eq.mpr (now.won last).2.2)
    refine gate_reconcile (fun state => Dropped context.number stage state ∧ fact state)
      preparation ?_ ?_ ?_ ⟨dropped, stillHolds⟩ fun final reached => rest final reached.1 reached.2
    · exact fun before after relied reached =>
        ⟨reached.1.calm relied.calm, others before after relied reached.2⟩
    · exact fun state reached =>
        ⟨reached.1.calm (calm_record rfl rfl), silent reached.2 rfl rfl rfl⟩
    · exact fun state reached =>
        ⟨reached.1.toQuiet, fun won => absurd won (reached.1.gate earlier)⟩

/-- Every winner but this query that was stopped and authorized is persisted as unknown. -/
structure KnownBut (number : Nat) (state : State) : Prop where
  below : number < state.queries
  zero : .prepareEntered 0 ∉ state.history ∧ .stageStopped 0 ∉ state.history
  known : ∀ query, query ≠ number → .stageStopped query ∈ state.history →
      .stageReturned query .authorizeForward none ∈ state.history →
      .forwardUnknown query ∈ state.history

theorem KnownBut.other
    (knownBut : KnownBut number before)
    (effect : OtherEffect before after)
    (own : ∀ query stage, before.worker = .running query stage → query = number) :
    KnownBut number after where
  below := knownBut.below.trans_le effect.calm.queries
  zero := ⟨fun member => knownBut.zero.1 (effect.aside.agent rfl member),
    fun member => knownBut.zero.2 (effect.aside.agent rfl member)⟩
  known := by
    intro query other stopped returned
    refine effect.aside.mem (knownBut.known query other (effect.aside.agent rfl stopped) ?_)
    exact (effect.calm.returned returned).resolve_right fun running => other (own query _ running)

/-- A query whose stage was stopped and whose worker is waited for. -/
structure Stopping
    (number : Nat)
    (stage : Stage)
    (state : State) : Prop
    extends KnownBut number state where
  gate : stage ≠ .authorizeForward → .forwardGateWon number ∉ state.history
  tended : Tended number stage state

theorem Stopping.other (stopping : Stopping number stage before)
    (effect : OtherEffect before after) :
    Stopping number stage after where
  toKnownBut := stopping.toKnownBut.other effect fun _ _ running =>
    (stopping.tended.own _ _ running).1
  gate := fun earlier member => stopping.gate earlier (effect.aside.agent rfl member)
  tended := stopping.tended.other effect

theorem Dropped.stop
    (dropped : Dropped number stage state)
    (tended : Tended number stage state) :
    Stopping number stage (state.record (.stageStopped number)) where
  below := dropped.below
  zero := by
    refine ⟨fun member => dropped.zero.1 ((mem_cons.mp member).resolve_left nofun), ?_⟩
    intro member
    rcases mem_cons.mp member with same | old
    · cases same
      exact lt_irrefl 0 dropped.positive
    · exact dropped.zero.2 old
  known := by
    intro query other stopped returned
    apply mem_cons_of_mem
    apply dropped.known query
    · apply (mem_cons.mp stopped).resolve_left
      intro same
      cases same
      exact other rfl
    · exact (mem_cons.mp returned).resolve_left nofun
  gate := fun earlier member => dropped.gate earlier ((mem_cons.mp member).resolve_left nofun)
  tended := @Tended.silent _ _ _ _ [.stageStopped number] tended rfl rfl
    (forall_mem_singleton.mpr rfl)

/-- The worker was joined, and the authorization did not return nil. -/
theorem Stopping.quiet (stopping : Stopping number stage state)
    (unreturned : Unreturned number state) :
    Quiet .queryOnly number { state with worker := .idle } where
  below := stopping.below
  zero := stopping.zero
  known := by
    intro query stopped returned
    by_cases same : query = number
    · subst same
      exact absurd returned unreturned
    · exact stopping.known query same stopped returned
  unstopped := nofun
  settled := fun _ => unreturned
  cleared := fun other => (other rfl).elim
  unprepared := nofun

/-- A winner was stopped and authorized, and no one knows of it yet. -/
structure Unsettled (number : Nat) (state : State) : Prop extends KnownBut number state where
  idle : ∀ query stage, state.worker ≠ .running query stage

theorem Unsettled.other
    (unsettled : Unsettled number before)
    (effect : OtherEffect before after) :
    Unsettled number after where
  toKnownBut := unsettled.toKnownBut.other effect fun query stage running =>
    absurd running (unsettled.idle query stage)
  idle := fun query stage running => unsettled.idle query stage (effect.running running)

/-- The outcome is persisted as unknown, and nobody is owed anything. -/
theorem Unsettled.settle (unsettled : Unsettled number state) :
    Quiet .queryOnly 0 (state.record (.forwardUnknown number)) where
  below := lt_of_le_of_lt (Nat.zero_le number) unsettled.below
  zero := ⟨fun member => unsettled.zero.1 ((mem_cons.mp member).resolve_left nofun),
      fun member => unsettled.zero.2 ((mem_cons.mp member).resolve_left nofun)⟩
  known := by
    intro query stopped returned
    by_cases same : query = number
    · subst same
      exact mem_cons_self
    · exact mem_cons_of_mem _ (unsettled.known query same
          ((mem_cons.mp stopped).resolve_left nofun)
          ((mem_cons.mp returned).resolve_left nofun))
  unstopped := fun query stage running => absurd running (unsettled.idle query stage)
  settled := fun member => absurd ((mem_cons.mp member).resolve_left nofun) unsettled.zero.2
  cleared := fun other => (other rfl).elim
  unprepared := nofun

theorem gate_forwardUnknown
    (preparation : Preparation) (unsettled : Unsettled context.number state) :
    GateMeets (authorizeFailed config context preparation .forwardUnknown) GateHead state := by
  apply meetsWhen_bind
  apply meetsWhen_atomically
  intro before relied invariant
  have now := unsettled.other relied
  have own : LaneEvent .agent context.number before (.forwardUnknown context.number) := ⟨rfl, rfl⟩
  refine ⟨?_, trivial, ?_⟩
  · exact invariant.cons now.below (.record own) rfl rfl trivial
      nofun nofun nofun invariant.generations
  · exact gate_ends now.settle lane_leaveClient nofun

variable {forwardWon : Bool}

/-- The stage's worker is joined; a winner it authorized is left to the journal. -/
theorem gate_joinStage
    {otherwise : AgentError} (stopping : Stopping context.number stage state)
    (winner : forwardWon = true ↔ stage = .authorizeForward) (given : otherwise ≠ .forwardUnknown) :
    GateMeets (do
        match ← joinStage with
        | some error =>
          stageFailed config context preparation stage
            (if forwardWon then .failed error else otherwise)
        | none =>
          stageFailed config context preparation stage
            (if forwardWon then .forwardUnknown else otherwise))
      GateHead state := by
  apply meetsWhen_bind
  apply meetsWhen_act
  intro before relied invariant input error after performed _
  have now := stopping.other relied
  split at performed
  · rename_i plans worker
    cases performed
    refine ⟨invariant.take, trivial, ?_⟩
    have loses : forwardWon = false → stage ≠ .authorizeForward := by
      intro lost last
      rw [winner.mpr last] at lost
      cases lost
    have fails : ∀ reported : AgentError, reported ≠ .forwardUnknown →
        (reported = .canceled → forwardWon = false) → Unreturned context.number before →
        GateMeets (stageFailed config context preparation stage reported) GateHead
          { before with worker := .idle } := by
      intro reported known canceled unreturned
      apply gate_stageFailed config preparation stage known (now.quiet unreturned)
      intro isCanceled won
      exact absurd won (now.gate (loses (canceled isCanceled)))
    cases error with
    | some error =>
      have unreturned := now.tended.failed error plans worker
      cases forwardWon with
      | true => exact fails (.failed error) nofun nofun unreturned
      | false => exact fails otherwise given (fun _ => rfl) unreturned
    | none =>
      cases forwardWon with
      | true =>
        have last := winner.mp rfl
        subst last
        exact gate_forwardUnknown config preparation ⟨⟨now.below, now.zero, now.known⟩, nofun⟩
      | false => exact fails otherwise given (fun _ => rfl) (now.tended.early (loses rfl))
  · cases performed

theorem gate_cancelStage
    {otherwise : AgentError} (staged : Staged context.number preparation.generation stage state)
    (tended : Tended context.number stage state)
    (winner : forwardWon = true ↔ stage = .authorizeForward) (given : otherwise ≠ .forwardUnknown) :
    GateMeets (cancelStage config context preparation stage forwardWon otherwise)
      GateHead state := by
  apply meetsWhen_bind
  refine gate_cancelAgentPrepare (Tended context.number stage) staged
    (fun _ _ relied tended => tended.other relied) ?_ tended ?_
  · intro before after event tended worker history silent
    exact @Tended.silent _ _ _ _ [event] tended worker history
      (forall_mem_singleton.mpr silent)
  intro final dropped tended
  apply meetsWhen_bind
  apply meetsWhen_atomically
  intro before relied invariant
  have now := dropped.calm relied.calm
  have own : LaneEvent .agent context.number before (.stageStopped context.number) := ⟨rfl, rfl⟩
  refine ⟨?_, trivial, ?_⟩
  · apply invariant.cons now.below (.record own) rfl rfl trivial nofun _ nofun
      invariant.generations
    rintro query (same | same)
    · cases same
    · cases same
      exact now.entered
  · exact gate_joinStage config (now.stop (tended.other relied)) winner given

/-- What the pump knows while a stage runs. -/
def Running (number generation : Nat) (stage : Stage) (state : State) : Prop :=
  Staged number generation stage state ∧ Tended number stage state

theorem carried_running {number generation : Nat} :
    Carried gateRules (Running number generation stage) where
  others := fun _ _ relied running => ⟨running.1.other relied, running.2.other relied⟩
  idle := fun _ _ => trivial

theorem gate_agentStage (running : Running context.number preparation.generation stage state)
    (winner : forwardWon = true ↔ stage = .authorizeForward) :
    GateMeets (agentStage config context preparation stage forwardWon) GateHead state := by
  apply meetsWhen_bind
  apply gate_pollStage running.1 running.2
  · intro state staged tended
    apply meetsWhen_bind
    apply carried_running.ask _ ⟨staged, tended⟩
    rintro wait state ⟨staged, tended⟩
    cases wait with
    | notReady => exact meetsWhen_pure ⟨staged, tended, winner⟩
    | eof => exact gate_cancelStage config staged tended winner nofun
    | failed => exact staged.failed config preparation stage nofun
    | ready =>
      apply meetsWhen_bind
      apply carried_running.ask _ ⟨staged, tended⟩
      rintro read state ⟨staged, tended⟩
      -- the worker is left behind, and may return at any time
      have leaves : GateMeets (do
          cancelAgentPrepare context preparation
          stageFailed config context preparation stage .eof) GateHead state := by
        apply meetsWhen_bind
        apply gate_cancelAgentPrepare (fun _ => True) staged (fun _ _ _ => id)
          (fun holds _ _ _ => holds) trivial
        intro final dropped _
        exact gate_stageFailed config preparation stage nofun dropped.toQuiet nofun
      cases read with
      | eof | closedPipe => exact leaves
      | tooLarge | failed => exact staged.failed config preparation stage nofun
      | packet packet =>
        cases packet with
        | cancel raw => exact gate_cancelStage config staged tended winner nofun
        | _ => exact staged.failed config preparation stage nofun
  · intro error plans final returned
    have same := resumedContext_number context stage plans
    apply gate_stageDone config
    rw [same]
    exact returned

/-! ## Preparation -/

/-- A preparation that fails is refused or dropped. -/
theorem gate_prepareFailed (error : AgentError) (quiet : Quiet .queryOnly context.number state) :
    GateMeets (prepareFailed config context error) GateHead state :=
  gate_ends quiet (lane_prepareFailed config context error) nofun

/-- What the pump knows while the preparation runs. -/
def Preparing (number generation : Nat) (state : State) : Prop :=
  Staged number generation .resumeQuery state ∧ Resting number state

theorem carried_preparing {number generation : Nat} :
    Carried gateRules (Preparing number generation) where
  others := fun _ _ relied preparing => ⟨preparing.1.other relied, preparing.2.calm relied.calm⟩
  idle := fun _ _ => trivial

theorem gate_preparationDone (result : Except HookError (Option Query)) (endsInput : Bool)
    (preparing : Preparing context.number preparation.generation state) :
    GateMeets (preparationDone config context preparation result endsInput) GateHead state := by
  apply meetsWhen_bind
  apply gate_agentPrepareLive preparation (fun _ _ relied resting => resting.calm relied.calm)
    preparing.1 preparing.2
  intro live state staged resting _
  split
  · cases result with
    | error error => exact gate_prepareFailed config _ staged.toQuiet
    | ok prepared =>
      cases prepared with
      | none => exact gate_prepareFailed config _ staged.toQuiet
      | some query =>
        apply meetsWhen_bind
        apply gate_agentPrepareLive preparation
          (fun _ _ relied resting => resting.calm relied.calm)
          staged resting
        intro live state staged resting _
        split
        · refine gate_startStage config ?_ ?_
          · exact staged
          · exact resting
        · exact gate_applyFailed config preparation .canceled
            staged.toQuiet fun _ _ => staged.uncanceled
  · have failing : Failing context.number state := ⟨staged.toQuiet, fun _ => staged.uncanceled⟩
    apply meetsWhen_bind
    apply gate_reconcileFailing preparation failing
    intro final failing
    exact gate_prepareFailed config _ failing.quiet

theorem gate_awaitPrepare
    (preparing : Preparing context.number preparation.generation state) :
    GateMeets (awaitPrepare config context preparation) GateHead state := by
  have gives : ∀ error state, Preparing context.number preparation.generation state →
      GateMeets (do
          cancelAgentPrepare context preparation
          prepareFailed config context error)
        GateHead state := by
    rintro error state ⟨staged, -⟩
    apply meetsWhen_bind
    apply gate_cancelAgentPrepare (fun _ => True) staged (fun _ _ _ => id)
      (fun holds _ _ _ => holds) trivial
    intro final dropped _
    exact gate_prepareFailed config error dropped.toQuiet
  apply meetsWhen_bind
  apply carried_preparing.ask _ preparing
  · intro answer state preparing
    cases answer with
    | some answered =>
      exact gate_preparationDone config answered.1 answered.2 preparing
    | none =>
      apply meetsWhen_bind
      apply carried_preparing.ask _ preparing
      intro wait state preparing
      cases wait with
      | notReady => exact meetsWhen_pure preparing
      | eof => exact gives _ state preparing
      | failed => exact gate_prepareFailed config _ preparing.1.toQuiet
      | ready =>
        apply meetsWhen_bind
        apply carried_preparing.ask _ preparing
        intro read state preparing
        cases read with
        | eof | closedPipe => exact gives _ state preparing
        | tooLarge | failed => exact gate_prepareFailed config _ preparing.1.toQuiet
        | packet packet =>
          cases packet with
          | cancel raw => exact gives _ state preparing
          | _ => exact gate_prepareFailed config _ preparing.1.toQuiet

end HouseGate.Relay
