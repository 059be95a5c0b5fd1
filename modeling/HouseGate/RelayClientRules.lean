import HouseGate.RelayNumbers

namespace HouseGate.Relay

open EffectProgram List

/-!
# Rules for the client pump

A contract that speaks about one lane needs of the pump itself only that the
ordinary packets keep its facts, and that every new query meets it from its
admission on.  The rules here reduce a round of the pump to these obligations.
-/

/-- Facts that other threads leave alone, under rules that let a pump wait. -/
structure Carried (rules : Rules State) (fact : State → Prop) : Prop where
  others : ∀ before after, rules.rely before after → fact before → fact after
  idle : ∀ before, rules.invariant before → rules.guarantee before before

variable {α : Type} {later : α → State → Prop} {state : State}

section Rules

variable {allowed : State → Answer → State → Prop} {rules : Rules State} {fact : State → Prop}
  (carried : Carried rules fact)

include carried

/-- An action that only reads. -/
theorem Carried.ask {read : Answer → State → Option α}
    (rest : ∀ answer final, fact final → later answer final) (holds : fact state) :
    MeetsWhen allowed rules (.ask read) later state := by
  apply meetsWhen_act
  intro before relied invariant input answer after performed _
  obtain ⟨_, -, same⟩ := Option.map_eq_some_iff.mp performed
  cases same
  exact ⟨invariant, carried.idle before invariant,
    rest answer before (carried.others state before relied holds)⟩

/-- A query gets the next number, which nothing names. -/
theorem Carried.newQueryContext {later : QueryContext → State → Prop} (query : Query)
    (numbered : ∀ before, rules.invariant before → Numbered before)
    (own : ∀ before, rules.invariant before → fact before →
        rules.invariant { before with queries := before.queries + 1 } ∧ rules.guarantee before
            { before with queries := before.queries + 1 } ∧
          fact { before with queries := before.queries + 1 })
    (rest : ∀ context final, Untouched context.number [] final → fact final → later context final)
    (holds : fact state) : MeetsWhen allowed rules (newQueryContext query) later state := by
  have numbering : ∀ id state, fact state → MeetsWhen allowed rules (atomically fun state =>
          ({ number := state.queries
             packetID := id
             query := { query with id := id }
             plans := .none },
            { state with queries := state.queries + 1 }))
        later state := by
    intro id state holds
    apply meetsWhen_atomically
    intro before relied invariant
    obtain ⟨kept, owed, factAfter⟩ :=
      own before invariant (carried.others state before relied holds)
    exact ⟨kept, owed, rest _ _ (untouched_next (numbered before invariant)) factAfter⟩
  apply meetsWhen_bind
  unfold assignQueryID
  split
  · exact carried.ask numbering holds
  · exact meetsWhen_pure (numbering query.id state holds)

end Rules

/-! ## A round of the pump -/

variable {lane : Lane} {number : Nat}

theorem lane_nextClientRead (prefetched : Option ClientRead) (limited : Bool) :
    Within (LaneEffect lane number) (nextClientRead prefetched limited) := by
  cases prefetched with
  | some read => exact bounded_pure trivial
  | none => exact lane_ask

/-- What a round of the client pump leaves to the contract's own lanes. -/
structure Round
    (allowed : State → Answer → State → Prop)
    (rules : Rules State)
    (config : Config)
    (locals : ClientLocals)
    (number : Nat)
    (fact : State → Prop)
    (ensures : Option Point → State → Prop) : Prop where
  holds : locals.Holds number
  others : ∀ before after, rules.rely before after → fact before → fact after
  packets : ∀ before after, LaneEffect .ordinary number before after → rules.invariant before →
      fact before → rules.invariant after ∧ rules.guarantee before after ∧ fact after
  returns : ∀ next state, Keeps locals number next → fact state → ensures next state
  tooLarge : ∀ context state, locals.rejected = some context → fact state →
      MeetsWhen allowed rules (refuseTooLarge config (some context)) ensures state
  queries : ∀ query state, fact state →
      MeetsWhen allowed rules (clientQuery config { locals with prefetched := none } query) ensures
        state

section Round

variable {allowed : State → Answer → State → Prop} {rules : Rules State} {config : Config}
  {locals : ClientLocals} {fact : State → Prop} {ensures : Option Point → State → Prop}
  (round : Round allowed rules config locals number fact ensures)

include round

/-- A part of the round that stays within the ordinary bound. -/
theorem Round.within
    {program : Code α}
    (bounded : Within (LaneEffect .ordinary number) program)
    (holds : fact state)
    (rest : ∀ value final, fact final → later value final) :
    MeetsWhen allowed rules program later state :=
  (meetsWhen_of_bounded bounded round.others round.packets holds).weaken
    fun value final reached => rest value final reached.2

/-- The end of a round that stays within the ordinary bound. -/
theorem Round.ends {program : Code (Option Point)}
    (bounded : Bounded (LaneEffect .ordinary number) (Keeps locals number) program)
    (holds : fact state) :
    MeetsWhen allowed rules program ensures state :=
  (meetsWhen_of_bounded bounded round.others round.packets holds).weaken
    fun next final reached => round.returns next final reached.1 reached.2

theorem Round.dispatch
    (codec : Nat)
    (packet : ClientPacket)
    (holds : fact state) :
    MeetsWhen allowed rules (dispatchPacket config codec { locals with prefetched := none } packet)
      ensures state := by
  have held : ClientLocals.Holds { locals with prefetched := none } number := round.holds
  have same :
      ∀ next, Keeps { locals with prefetched := none } number next → Keeps locals number next := by
    intro next keeps
    cases next with
    | none => trivial
    | some point =>
      cases point with
      | client later => exact keeps
      | _ => exact keeps.elim
  by_cases isQuery : ∃ query, packet = .query query
  · obtain ⟨query, rfl⟩ := isQuery
    exact round.queries query state holds
  · apply round.ends _ holds
    exact (packet_dispatch config codec packet held fun query same =>
        isQuery ⟨query, same⟩).weaken (fun _ _ effect => effect) same

theorem Round.clientPacket
    (codec : Nat)
    (packet : ClientPacket)
    (holds : fact state) :
    MeetsWhen allowed rules (clientPacket config codec { locals with prefetched := none } packet)
      ensures state := by
  apply meetsWhen_bind
  apply round.within (bounded_atomically fun _ => .silent fun _ => ⟨rfl, rfl⟩) holds
  intro allowance final holds
  split
  · split
    · exact round.dispatch codec packet holds
    · split
      · exact meetsWhen_pure (round.returns _ _ (keeps_same round.holds) holds)
      · exact round.ends packet_leaveClient holds
  · exact round.dispatch codec packet holds

theorem Round.refuseTooLarge (holds : fact state) : MeetsWhen allowed rules (refuseTooLarge config
    ((locals.current.map (·.context)).or locals.rejected)) ensures state := by
  cases held : locals.current with
  | some current =>
    have same := round.holds current held
    subst same
    exact round.ends (packet_refuseAndLeave current.context _) holds
  | none =>
    cases rejected : locals.rejected with
    | some context => exact round.tooLarge context state rejected holds
    | none =>
      apply round.ends _ holds
      apply bounded_then (bounded_tell fun _ => .record (.inr ⟨rfl, rfl⟩))
      exact packet_leaveClient

theorem Round.clientToUpstream (holds : fact state) :
    MeetsWhen allowed rules (clientToUpstream config locals) ensures state := by
  apply meetsWhen_bind
  apply round.within lane_ask holds
  intro codec state holds
  apply meetsWhen_bind
  apply round.within lane_ask holds
  intro limit state holds
  apply meetsWhen_bind
  apply round.within (lane_nextClientRead _ _) holds
  intro read state holds
  split
  · exact round.refuseTooLarge holds
  · exact round.ends packet_leaveClient holds
  · exact round.ends packet_leaveClient holds
  · exact round.ends packet_leaveClient holds
  · apply meetsWhen_bind
    apply round.within (bounded_ask fun _ => .refl) holds
    intro refused state holds
    split
    · apply round.ends _ holds
      apply bounded_then (bounded_tell fun _ => .record (.inr ⟨rfl, rfl⟩))
      exact packet_leaveClient
    · exact round.clientPacket codec _ holds
  · exact round.clientPacket codec _ holds

end Round

/-! ## Plans -/

variable (context : QueryContext)

theorem lane_refuseAfterHooksAndDrain (error : HookError) : LaneReturns lane context.number (do
    refuseAfterHooks context error
    return endRejected context) := by
  apply bounded_then (lane_refuseAfterHooks context error)
  exact bounded_pure (returns_endRejected context)

variable (config : Config)

/-- The lanes that write upstream are left to the contract. -/
theorem meets_runPlans
    {allowed : State → Answer → State → Prop}
    {rules : Rules State}
    {ensures : Option Point → State → Prop}
    (context : QueryContext)
    (compressed : Bool)
    (ends : ∀ program, LaneReturns .queryOnly context.number program →
        MeetsWhen allowed rules program ensures state)
    (agent : ∀ plan, context.plans.agentPrepare = some plan →
        context.plans.synthesizedInsert = none →
        MeetsWhen allowed rules (runAgentPrepare config context plan) ensures state)
    (synthesized : ∀ plan, context.plans.synthesizedInsert = some plan →
        context.plans.suppressUpstreamExecution = false →
        MeetsWhen allowed rules (runSynthesizedInsert config context compressed plan) ensures state)
    (deferred : ∀ limit, context.plans.deferredInsertLimit = some limit →
        context.plans.synthesizedInsert = none →
        context.plans.suppressUpstreamExecution = false →
        MeetsWhen allowed rules (runDeferredInsert config context limit) ensures state)
    (unplanned : context.plans.agentPrepare = none → context.plans.synthesizedInsert = none →
      context.plans.deferredInsertLimit = none →
      MeetsWhen allowed rules (forwardUnplanned config context) ensures state) :
    MeetsWhen allowed rules (runPlans config context compressed) ensures state := by
  unfold runPlans
  dsimp only
  split
  · exact ends _ (lane_refuseAfterHooksAndDrain context _)
  rename_i compatible
  split
  · rename_i plan planned
    apply agent plan planned
    simpa only [planned, Option.isSome_some, Bool.true_or,
      Bool.and_true, Option.not_isSome_iff_eq_none] using compatible
  · split
    · exact ends _ (lane_refuseAndResume context _)
    · exact ends _ (lane_runQueryOnly config context _)
  · rename_i plan _ _ planned
    apply synthesized plan planned
    simp only [planned, Option.isSome_some, Bool.true_and,
      Bool.or_eq_true, not_or, Bool.not_eq_true] at compatible
    exact compatible.1.2
  · rename_i noAgent noQueryOnly noSynthesized
    split
    · exact ends _ (lane_abortWithSuccess context)
    split
    · rename_i noDeferred
      exact unplanned noAgent noSynthesized noDeferred
    rename_i limit planned
    split
    · exact ends _ (lane_refuseAfterHooksAndDrain context _)
    · rename_i forwards
      exact deferred limit planned noSynthesized (Bool.not_eq_true _ ▸ forwards)

/-! ## Admission -/

/-- What the pump itself does to the state while it admits a query. -/
inductive AdmissionStep : State → State → Prop where
  | number (state : State) : AdmissionStep state { state with queries := state.queries + 1 }
  | called {state : State} {number : Nat} (below : number < state.queries) :
      AdmissionStep state (state.record (.onQuery number))
  | hooked {state : State} {admitted : Except HookError QueryContext}
      (below : ∀ context, admitted = .ok context → context.number < state.queries)
      (rebinds : Bool) :
      AdmissionStep state ((if rebinds then state.rebind else state).plan admitted)
  | noted {state : State}
      (eligible : Bool) (never : eligible = true → state.failoverEligible = true) :
      AdmissionStep state { state with failoverEligible := eligible }

/-- The events of admission. -/
def Event.isAdmission (event : Event) : Bool :=
  match event with
  | .onQuery _ | .planned _ | .rebound _ => true
  | _ => false

/-- What admission leaves alone. -/
structure AdmissionEffect (before after : State) : Prop where
  events : ∃ events, after.history = events ++ before.history ∧ ∀ event ∈ events,
      event.isAdmission = true ∧ ∀ number, event.Names number → number < before.queries
  queries : before.queries ≤ after.queries
  active : after.active = before.active
  terminalHooks : after.terminalHooks = before.terminalHooks
  pendingRejection : after.pendingRejection = before.pendingRejection
  generations : after.agentGeneration = before.agentGeneration ∧
      after.agentForwardGeneration = before.agentForwardGeneration
  gates : after.gates = before.gates ∧ after.gate = before.gate ∧
      after.inputGate = before.inputGate ∧
      after.sampleGate = before.sampleGate ∧
      after.sampleResult = before.sampleResult ∧ after.signedQueryWrite = before.signedQueryWrite
  worker : after.worker = before.worker
  failoverQuery : after.failoverQuery = before.failoverQuery
  failoverEligible : after.failoverEligible = true → before.failoverEligible = true

theorem AdmissionEffect.refl (state : State) : AdmissionEffect state state where
  events := ⟨[], rfl, forall_mem_nil _⟩
  queries := le_rfl
  active := rfl
  terminalHooks := rfl
  pendingRejection := rfl
  generations := ⟨rfl, rfl⟩
  gates := ⟨rfl, rfl, rfl, rfl, rfl, rfl⟩
  worker := rfl
  failoverQuery := rfl
  failoverEligible := id

theorem AdmissionStep.effect {before after : State} (step : AdmissionStep before after) :
    AdmissionEffect before after := by
  cases step with
  | number => exact { AdmissionEffect.refl before with queries := Nat.le_succ _ }
  | called below =>
    refine { AdmissionEffect.refl before with
        events := ⟨[.onQuery _], rfl, forall_mem_singleton.mpr ⟨rfl, ?_⟩⟩ }
    exact fun number names => names ▸ below
  | @hooked admitted below rebinds =>
    -- The rebinding comes first, the plans are noted after it.
    have rebound : ∃ events, (if rebinds then before.rebind else before).history =
        events ++ before.history ∧ ∀ event ∈ events, event.isAdmission = true ∧
                ∀ number, event.Names number → number < before.queries := by
      cases rebinds with
      | false => exact ⟨[], rfl, forall_mem_nil _⟩
      | true =>
        refine ⟨[.rebound before.codecs], rfl, ?_⟩
        intro event member
        cases mem_singleton.mp member
        exact ⟨rfl, fun number names => names.elim⟩
    obtain ⟨events, history, own⟩ := rebound
    have planned : ∃ events, ((if rebinds then before.rebind else before).plan
        admitted).history = events ++ before.history ∧ ∀ event ∈ events, event.isAdmission = true ∧
                ∀ number, event.Names number → number < before.queries := by
      cases admitted with
      | error error => exact ⟨events, history, own⟩
      | ok context =>
        refine ⟨.planned context :: events, congrArg _ history, ?_⟩
        intro event member
        rcases mem_cons.mp member with rfl | member
        · exact ⟨rfl, fun number names => names ▸ below context rfl⟩
        · exact own event member
    cases rebinds <;> cases admitted <;>
      exact { AdmissionEffect.refl before with events := planned }
  | noted eligible never => exact { AdmissionEffect.refl before with failoverEligible := never }

theorem Numbered.admission
    {before after : State}
    (numbered : Numbered before)
    (effect : AdmissionEffect before after) :
    Numbered after := by
  obtain ⟨events, history, own⟩ := effect.events
  obtain ⟨-, gate, -, sampleGate, -, -⟩ := effect.gates
  refine ⟨numbered.positive.trans_le effect.queries, ?_, ?_, ?_, ?_, ?_, ?_⟩
  · intro event member number names
    rw [history] at member
    apply lt_of_lt_of_le _ effect.queries
    rcases mem_append.mp member with new | old
    · exact (own event new).2 number names
    · exact numbered.events event old number names
  · intro active held
    rw [effect.active] at held
    exact (numbered.active active held).trans_le effect.queries
  · intro index
    rw [gate]
    exact (numbered.gates index).trans_le effect.queries
  · intro armed held
    rw [effect.failoverQuery] at held
    exact (numbered.armed armed held).trans_le effect.queries
  · intro index query held
    rw [sampleGate] at held
    exact (numbered.sampled index query held).trans_le effect.queries
  · intro query stage running
    rw [effect.worker] at running
    exact (numbered.working query stage running).trans_le effect.queries

/-- The events that name a query when its plans are known. -/
def admittedEvents (context : QueryContext) : List Event :=
  [.planned context, .onQuery context.number]

/-- What admission leaves to the contract. -/
structure Admission
    (allowed : State → Answer → State → Prop)
    (rules : Rules State)
    (config : Config)
    (locals : ClientLocals)
    (fact : State → Prop)
    (ensures : Option Point → State → Prop) : Prop where
  rely : ∀ before after, rules.rely before after → OtherEffect before after
  carried : Carried rules fact
  numbered : ∀ before, rules.invariant before → Numbered before
  steps : ∀ before after, AdmissionStep before after → rules.invariant before →
      fact before → rules.invariant after ∧ rules.guarantee before after ∧ fact after
  leaves : ∀ state, fact state → MeetsWhen allowed rules leaveClient ensures state
  unseen : ∀ (context : QueryContext) (error : HookError) (state : State),
      Untouched context.number [] state →
      fact state → MeetsWhen allowed rules (refuseUnseen context error) ensures state
  interrupted : ∀ (current : CurrentQuery) (context : QueryContext)
      (error : HookError) (state : State),
      locals.current = some current →
      Untouched context.number [] state →
      fact state →
      MeetsWhen allowed rules (do
          writeExceptionToClient (some context.number) error
          abortAndComplete current.context
          leaveClient)
        ensures state
  refused : ∀ (context : QueryContext) (error : HookError) (state : State),
      Untouched context.number [.onQuery context.number] state →
      fact state →
      MeetsWhen allowed rules (do
          refuse context error
          return endRejected context)
        ensures state
  plans : ∀ (context : QueryContext) (compressed : Bool) (state : State),
      Untouched context.number (admittedEvents context) state →
      fact state →
      (config.hasFailover = true → context.plans.planned = true → state.failoverEligible = false) →
      MeetsWhen allowed rules (runPlans config context compressed) ensures state

variable {seen : List Event}

section Admission

variable {allowed : State → Answer → State → Prop} {rules : Rules State} {config}
  {locals : ClientLocals} {fact : State → Prop} {ensures : Option Point → State → Prop}

/-- A rebound session leaves the query where it was. -/
theorem Untouched.rebound (untouched : Untouched number seen state) (rebinds : Bool) :
    Untouched number seen (if rebinds then state.rebind else state) := by
  cases rebinds with
  | false => exact untouched
  | true =>
    refine { untouched with events := ?_ }
    intro event member names
    rcases mem_cons.mp member with rfl | old
    · exact names.elim
    · exact untouched.events event old names

variable (admission : Admission allowed rules config locals fact ensures)

include admission

theorem Admission.untouched {seen : List Event} :
    Carried rules fun state => Untouched number seen state ∧ fact state where
  others := fun before after relied holds =>
    ⟨holds.1.other (admission.rely before after relied),
      admission.carried.others before after relied holds.2⟩
  idle := admission.carried.idle

variable (untouched : Untouched context.number [] state)

include untouched

theorem Admission.onQuery {later : Except HookError QueryContext → State → Prop}
    (holds : fact state)
    (refusal : ∀ error final, Untouched context.number [.onQuery context.number] final →
        fact final → later (.error error) final)
    (admitted : ∀ changed final,
        changed.number = context.number →
        Untouched changed.number (admittedEvents changed) final →
        fact final → later (.ok changed) final) :
    MeetsWhen allowed rules (onQuery context) later state := by
  apply meetsWhen_bind
  apply meetsWhen_atomically
  intro before relied invariant
  obtain ⟨untouched, holds⟩ := admission.untouched.others state before relied ⟨untouched, holds⟩
  obtain ⟨kept, owed, holds⟩ := admission.steps before _ (.called untouched.below) invariant holds
  refine ⟨kept, owed, ?_⟩
  have called := untouched.record (.onQuery context.number)
  apply meetsWhen_act
  intro before relied invariant input answer after performed _
  obtain ⟨called, holds⟩ := admission.untouched.others _ before relied ⟨called, holds⟩
  cases input with
  | queryHook result rebinds =>
    cases performed
    cases result with
    | error error =>
      obtain ⟨kept, owed, holds⟩ := admission.steps before _
          (@AdmissionStep.hooked before (.error error) nofun rebinds)
          invariant holds
      exact ⟨kept, owed, refusal error _ (called.rebound rebinds) holds⟩
    | ok changed =>
      let admittedContext : QueryContext := { context with
          packetID := changed.1
          query := changed.2.1
          plans := changed.2.2 }
      have below : ∀ other,
          Except.ok admittedContext = (.ok other : Except HookError QueryContext) →
          other.number < before.queries := by
        intro other same
        cases same
        exact called.below
      obtain ⟨kept, owed, holds⟩ :=
        admission.steps before _ (AdmissionStep.hooked below rebinds) invariant holds
      exact ⟨kept, owed, admitted _ _ rfl ((called.rebound rebinds).record _) holds⟩
  | _ => cases performed

omit untouched in
theorem Admission.noteFailover {context : QueryContext} {later : Unit → State → Prop}
    (untouched : Untouched context.number seen state) (holds : fact state)
    (rest : ∀ final, Untouched context.number seen final → fact final → (config.hasFailover = true →
          context.plans.planned = true → final.failoverEligible = false) →
        later () final) :
    MeetsWhen allowed rules (onlyIf config.hasFailover (noteFailoverStatement context)) later
      state := by
  cases hasFailover : config.hasFailover with
  | false =>
    apply meetsWhen_pure
    exact rest state untouched holds fun present => by
      rw [hasFailover] at present
      cases present
  | true =>
    apply meetsWhen_atomically
    intro before relied invariant
    obtain ⟨untouched, holds⟩ := admission.untouched.others state before relied ⟨untouched, holds⟩
    split
    · obtain ⟨kept, owed, holds⟩ := admission.steps before _ (.noted false nofun) invariant holds
      refine ⟨kept, owed, rest _ ?_ holds fun _ _ => rfl⟩
      exact ⟨untouched.positive, untouched.below, untouched.events,
        untouched.active, untouched.gates, untouched.armed,
        untouched.sampled, untouched.working⟩
    · rename_i ordinary
      refine ⟨invariant, admission.carried.idle before invariant, ?_⟩
      apply rest before untouched holds
      intro _ planned
      exact absurd (.inr planned) ordinary

theorem Admission.admitQuery (holds : fact state) :
    MeetsWhen allowed rules (admitQuery config context) ensures state := by
  apply meetsWhen_bind
  apply admission.onQuery context untouched holds
  · intro error final called holds
    exact admission.refused context _ final called holds
  intro changed final same admitted holds
  apply meetsWhen_bind
  apply admission.noteFailover admitted holds
  intro final admitted holds ineligible
  exact admission.plans changed _ final admitted holds ineligible

theorem Admission.rejectOpaqueReuse (holds : fact state) :
    MeetsWhen allowed rules (rejectOpaqueReuse config context) ensures state := by
  apply meetsWhen_bind
  refine admission.untouched.ask ?_ ⟨untouched, holds⟩
  rintro finished final ⟨untouched, holds⟩
  split
  · apply meetsWhen_bind
    refine admission.untouched.ask ?_ ⟨untouched, holds⟩
    rintro clean final ⟨untouched, holds⟩
    split
    · exact admission.leaves final holds
    · exact admission.unseen context _ final untouched holds
  · exact admission.unseen context _ final untouched holds

omit untouched

theorem Admission.clientQuery (query : Query) (holds : fact state) :
    MeetsWhen allowed rules (clientQuery config locals query) ensures state := by
  apply meetsWhen_bind
  apply admission.carried.newQueryContext query admission.numbered
  · intro before invariant holds
    exact admission.steps before _ (.number before) invariant holds
  · intro context final untouched holds
    split
    · rename_i current held
      exact admission.interrupted current context _ final held untouched holds
    · exact admission.unseen context _ final untouched holds
    apply meetsWhen_bind
    apply admission.untouched.ask _ ⟨untouched, holds⟩
    rintro opaqueMode final ⟨untouched, holds⟩
    split
    · exact admission.rejectOpaqueReuse context untouched holds
    apply meetsWhen_bind
    apply admission.untouched.ask _ ⟨untouched, holds⟩
    rintro active final ⟨untouched, holds⟩
    split
    · exact admission.unseen context _ final untouched holds
    · exact admission.admitQuery context untouched holds
  · exact holds

end Admission

/-! ## Contracts of the client pump -/

/-- The loop heads of the threads other than the client pump. -/
def OtherHead (thread : Thread) (next : Option Point) : Prop :=
  match thread with
  | .client => False
  | .upstream => OtherPoint next
  | .worker => next = some .stageWorker
  | .supervisor => next = none ∨ next = some .supervise
  | .probe => next = none ∨ next = some .probe
  | .shutdown => next = none ∨ next = some .shutdown

/-- Every step of another thread is within its bound. -/
theorem otherHead_bounded
    {thread : Thread}
    {point : Point}
    (head : OtherHead thread (some point)) :
    Bounded OtherEffect (OtherHead thread) (pointCode config point) := by
  have ended : ∀ {program : Code (Option Point)}, Bounded OtherEffect (· = none) program →
      (∀ next, next = none → OtherHead thread next) →
      Bounded OtherEffect (OtherHead thread) program :=
    fun bounded ends => bounded.weaken (fun _ _ effect => effect) ends
  cases thread with
  | client => exact head.elim
  | upstream =>
    rcases head point rfl with rfl | ⟨codec, rfl⟩
    · exact bounded_upstreamToClient config
    · exact bounded_opaqueCopy codec
  | worker =>
    cases head
    exact bounded_stageWorker
  | supervisor =>
    rcases head with none | same
    · cases none
    · cases same
      exact ended bounded_supervise fun _ => .inl
  | probe =>
    rcases head with none | same
    · cases none
    · cases same
      exact ended bounded_probe fun _ => .inl
  | shutdown =>
    rcases head with none | same
    · cases none
    · cases same
      exact ended bounded_shutdown fun _ => .inl

/-- The client pump answers to its own rules, every other thread to its bound. -/
def clientContract (allowed : Thread → State → Answer → State → Prop) (invariant : State → Prop)
    (heads : Option Point → State → Prop) :
    ProgramPool.Contract Thread State Answer Point where
  allowed := allowed
  invariant := invariant
  rely := fun thread before after => thread = .client → OtherEffect before after
  guarantee := fun thread before after => thread ≠ .client → OtherEffect before after
  heads := fun thread next state =>
    if thread = .client then heads next state else OtherHead thread next

theorem clientContract_kept
    {allowed : Thread → State → Answer → State → Prop} {invariant : State → Prop}
    {heads : Option Point → State → Prop}
    (others : ∀ before after, OtherEffect before after → invariant before → invariant after)
    (stable : ∀ head before after, OtherEffect before after → heads head before → heads head after)
    (bodies : ∀ point state, invariant state → heads (some point) state →
        MeetsWhen (allowed .client)
          { invariant := invariant
            rely := OtherEffect
            guarantee := fun _ _ => True }
          (pointCode config point) heads state) :
    (clientContract allowed invariant heads).Kept (relayCode config) where
  reflexive := fun _ => .refl _
  transitive := fun first second client => (first client).trans (second client)
  compatible := by
    intro thread other before after different guaranteed client
    exact guaranteed fun same => different (client.trans same.symm)
  stable := by
    intro thread head before after relied held
    by_cases client : thread = .client
    · subst client
      exact stable head before after (relied rfl) held
    · simpa [clientContract, client] using held
  bodies := by
    intro thread point state holds head
    by_cases client : thread = .client
    · subst client
      refine (bodies point state holds head).under rfl ?_ ?_
      · exact fun _ _ relied => relied rfl
      · exact fun _ _ _ other => (other rfl).elim
    · have bounded : Bounded OtherEffect (OtherHead thread) (pointCode config point) := by
        apply otherHead_bounded
        simpa [clientContract, client] using head
      have unowed : ∀ before after,
          ((clientContract allowed invariant heads).rules thread).rely before after →
          (fun _ : State => True) before → (fun _ : State => True) after :=
        fun _ _ _ _ => trivial
      refine (meetsWhen_of_bounded bounded unowed ?_ trivial).weaken ?_
      · intro before after effect holds _
        exact ⟨others before after effect holds, fun _ => effect, trivial⟩
      · intro next final reached
        simpa [clientContract, client] using reached.1

end HouseGate.Relay
