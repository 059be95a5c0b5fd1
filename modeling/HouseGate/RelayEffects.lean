import HouseGate.RelayPumps

namespace HouseGate.Relay

open DecimalText EffectProgram List State Option

/-!
# What the upstream pump may do to the client pump's query

The upstream pump, the probe, the supervisor and the end of the context are
bounded here once and for all: which fields they leave alone, how they may
move a gate, and which events they leave behind.  Whatever is claimed of the
client pump relies on this bound.
-/

/-- A gate as another thread than its writer may leave it. -/
structure GateByOther (before after : InputGate) : Prop where
  context : after.context = before.context
  cancel : after.cancel = before.cancel
  done : after.done = before.done
  marker : after.marker = before.marker
  terminator : after.terminator = before.terminator
  owner : after.lifecycleOwner = before.lifecycleOwner ∨
      before.lifecycleOwner = .unclaimed ∧ after.lifecycleOwner = .upstream
  delivered : before.delivered = true → after.delivered = true
  terminal : before.terminal = true → after.terminal = true
  aborted : before.aborted = true → after.aborted = true
  completed : before.completed = true → after.completed = true
  decoded : before.terminalDecoded = true → after.terminalDecoded = true

theorem GateByOther.refl (gate : InputGate) : GateByOther gate gate :=
  ⟨rfl, rfl, rfl, rfl, rfl, .inl rfl, id, id, id, id, id⟩

theorem GateByOther.trans {first second third : InputGate} (one : GateByOther first second)
    (two : GateByOther second third) :
    GateByOther first third where
  context := two.context.trans one.context
  cancel := two.cancel.trans one.cancel
  done := two.done.trans one.done
  marker := two.marker.trans one.marker
  terminator := two.terminator.trans one.terminator
  owner := by
    rcases one.owner with same | ⟨free, claimed⟩
    · rw [← same]
      exact two.owner
    · rcases two.owner with same | ⟨stillFree, -⟩
      · exact .inr ⟨free, same.trans claimed⟩
      · rw [claimed] at stillFree
        cases stillFree
  delivered := two.delivered ∘ one.delivered
  terminal := two.terminal ∘ one.terminal
  aborted := two.aborted ∘ one.aborted
  completed := two.completed ∘ one.completed
  decoded := two.decoded ∘ one.decoded

/-- The packets that a move sends to a candidate. -/
def FailoverQuery.resends (armed : FailoverQuery) (packet : UpstreamPacket) : Prop :=
  packet = .query armed.query ∨
    ∃ data, armed.terminator = some data ∧ packet = .data data.raw (data.info.any (·.empty))

/-- The events of other threads than the client pump. -/
def OtherEvent (state : State) (event : Event) : Prop :=
  match event with
  | .onQueryAbort query unsent => unsent = false ∧ ∃ gate, query = (state.gate gate).context.number
  | .took query => ∃ active, state.active = some active ∧ query = active.number
  | .sampleConsumed query _ => ∃ gate, state.sampleGate = some (gate, query)
  | .resent _ query packet _ =>
    ∃ armed, state.failoverQuery = some armed ∧ query = armed.number ∧ armed.resends packet
  | .stageReturned query stage _ => state.worker = .running query stage
  | .onQuerySuccess _ | .onQueryComplete | .onClose | .relayed _ _ _ _
  | .rawRelayed _ _ _ | .decoded _ _ _ | .rebound _ => True
  | _ => False

/-- The event by which the worker of a stage returns. -/
def Event.isReturn (event : Event) : Bool :=
  match event with
  | .stageReturned _ _ _ => true
  | _ => false

/-- The worker of a stage as other threads than the client pump may leave it. -/
inductive WorkerMove (before : Worker) (events : List Event) : Worker → Prop where
  | stay (silent : ∀ event ∈ events, event.isReturn = false) : WorkerMove before events before
  | returned {query : Nat} {stage : Stage} {error : Option HookError} {plans : Plans}
      {late early : List Event}
      (running : before = .running query stage)
      (recorded : events = late ++ .stageReturned query stage error :: early)
      (once : ∀ event ∈ late ++ early, event.isReturn = false) :
      WorkerMove before events (.returned error plans)

theorem WorkerMove.trans
    {first second third : Worker}
    {early late : List Event}
    (one : WorkerMove first early second)
    (two : WorkerMove second late third) :
    WorkerMove first (late ++ early) third := by
  cases one with
  | stay silent =>
    cases two with
    | stay later =>
      apply WorkerMove.stay
      intro event member
      rcases mem_append.mp member with isLate | isEarly
      · exact later event isLate
      · exact silent event isEarly
    | @returned query stage error _ last middle running recorded once =>
      have whole :
          late ++ early = last ++ .stageReturned query stage error :: (middle ++ early) := by
        rw [recorded, append_assoc, cons_append]
      refine .returned running whole ?_
      · intro event member
        rw [← append_assoc] at member
        rcases mem_append.mp member with isLate | isEarly
        · exact once event isLate
        · exact silent event isEarly
  | @returned query stage error _ middle start running recorded once =>
    cases two with
    | stay later =>
      have whole :
          late ++ early = (late ++ middle) ++ .stageReturned query stage error :: start := by
        rw [recorded, append_assoc]
      refine .returned running whole ?_
      · intro event member
        rw [append_assoc] at member
        rcases mem_append.mp member with isLate | isEarly
        · exact later event isLate
        · exact once event isEarly
    | returned again => cases again

/-- A worker that runs has run before. -/
theorem WorkerMove.running
    {before : Worker}
    {events : List Event}
    {query : Nat}
    {stage : Stage}
    (move : WorkerMove before events (.running query stage)) :
    before = .running query stage := by
  generalize same : Worker.running query stage = after at move
  cases move with
  | stay => rfl
  | returned => cases same

/-- An armed query keeps its identity while other threads handle it. -/
structure SameArmed (before after : FailoverQuery) : Prop where
  number : after.number = before.number
  query : after.query = before.query
  terminator : after.terminator = before.terminator
  read : after.read = before.read

/-- What a step of the other threads may do. -/
structure OtherEffect (before after : State) : Prop where
  events : ∃ events, after.history = events ++ before.history ∧
      (∀ event ∈ events, OtherEvent before event) ∧
      (after.active = before.active ∧ (∀ query, .took query ∉ events) ∨ after.active = none ∧
          ∃ active, before.active = some active ∧ .took active.number ∈ events)
  worker : ∃ events, after.history = events ++ before.history ∧
      WorkerMove before.worker events after.worker
  lateMarkerAllowed : after.lateMarkerAllowed = before.lateMarkerAllowed
  agentGeneration : after.agentGeneration = before.agentGeneration
  agentForwardGeneration : after.agentForwardGeneration = before.agentForwardGeneration
  pendingRejection :
    after.pendingRejection = before.pendingRejection ∨ after.pendingRejection = none
  signedQueryWrite : after.signedQueryWrite = before.signedQueryWrite
  sampleGates : after.sampleGates = before.sampleGates
  sampleGate : after.sampleGate = before.sampleGate ∨ after.sampleGate = none
  gates : after.gates = before.gates
  inputGate : after.inputGate = before.inputGate ∨ after.inputGate = none
  gate : ∀ gate, GateByOther (before.gate gate) (after.gate gate)
  failoverEligible : after.failoverEligible = before.failoverEligible
  failoverQuery : ∀ armed, after.failoverQuery = some armed →
      ∃ earlier, before.failoverQuery = some earlier ∧ SameArmed earlier armed
  queries : after.queries = before.queries
  clientExited : after.clientExited = before.clientExited

variable (armed : FailoverQuery)

theorem SameArmed.refl : SameArmed armed armed := ⟨rfl, rfl, rfl, rfl⟩

theorem OtherEffect.refl (state : State) : OtherEffect state state where
  events := ⟨[], rfl, forall_mem_nil _, .inl ⟨rfl, fun _ => not_mem_nil⟩⟩
  worker := ⟨[], rfl, .stay (forall_mem_nil _)⟩
  lateMarkerAllowed := rfl
  agentGeneration := rfl
  agentForwardGeneration := rfl
  pendingRejection := .inl rfl
  signedQueryWrite := rfl
  sampleGates := rfl
  sampleGate := .inl rfl
  gates := rfl
  inputGate := .inl rfl
  gate := fun _ => .refl _
  failoverEligible := rfl
  failoverQuery := fun armed held => ⟨armed, held, .refl armed⟩
  queries := rfl
  clientExited := rfl

/-- The event by which a query loses the active slot or a stage its worker. -/
def Event.isMove (event : Event) : Bool :=
  match event with
  | .took _ | .stageReturned _ _ _ => true
  | _ => false

theorem Event.isReturn_of_isMove {event : Event} (keeps : event.isMove = false) :
    event.isReturn = false := by
  cases event with
  | stageReturned => cases keeps
  | _ => rfl

theorem OtherEffect.record
    {state : State}
    {event : Event}
    (other : OtherEvent state event)
    (keeps : event.isMove = false) :
    OtherEffect state (state.record event) :=
  { OtherEffect.refl state with
    events := ⟨[event], rfl, forall_mem_singleton.mpr other, .inl ⟨rfl, fun query member => by
        rw [← mem_singleton.mp member] at keeps
        cases keeps⟩⟩
    worker := ⟨[event], rfl, .stay (forall_mem_singleton.mpr (Event.isReturn_of_isMove keeps))⟩ }

variable {change : InputGate → InputGate}

theorem OtherEffect.withGate {state : State} {gate : Nat}
    (moved : GateByOther (state.gate gate) (change (state.gate gate))) :
    OtherEffect state (state.withGate gate change) := by
  refine { OtherEffect.refl state with gate := ?_ }
  intro other
  by_cases same : other = gate
  · subst same
    simpa [State.withGate] using moved
  · simpa [State.withGate, same] using GateByOther.refl (state.gate other)

/-- A worker that runs has run before the others' steps. -/
theorem OtherEffect.running
    {before after : State}
    {query : Nat}
    {stage : Stage}
    (effect : OtherEffect before after)
    (running : after.worker = .running query stage) :
    before.worker = .running query stage := by
  obtain ⟨events, -, move⟩ := effect.worker
  rw [running] at move
  exact move.running

/-- An event of a later state is one of the earlier state. -/
theorem OtherEffect.event
    {before after : State}
    {event : Event}
    (effect : OtherEffect before after)
    (other : OtherEvent after event) :
    OtherEvent before event := by
  cases event with
  | onQueryAbort query unsent =>
    obtain ⟨sent, gate, same⟩ := other
    refine ⟨sent, gate, ?_⟩
    rw [same, (effect.gate gate).context]
  | took query =>
    obtain ⟨active, held, same⟩ := other
    obtain ⟨-, -, -, ⟨kept, -⟩ | ⟨gone, -⟩⟩ := effect.events
    · exact ⟨active, kept ▸ held, same⟩
    · rw [gone] at held
      cases held
  | sampleConsumed query raw =>
    obtain ⟨gate, held⟩ := other
    rcases effect.sampleGate with kept | gone
    · exact ⟨gate, kept ▸ held⟩
    · rw [gone] at held
      cases held
  | resent codec query packet whole =>
    obtain ⟨armed, held, same, resent⟩ := other
    obtain ⟨earlier, heldEarlier, sameArmed⟩ := effect.failoverQuery armed held
    refine ⟨earlier, heldEarlier, sameArmed.number ▸ same, ?_⟩
    unfold FailoverQuery.resends at resent ⊢
    rw [← sameArmed.query, ← sameArmed.terminator]
    exact resent
  | stageReturned query stage error => exact effect.running other
  | _ => exact other

theorem OtherEffect.trans
    {first second third : State}
    (one : OtherEffect first second)
    (two : OtherEffect second third) :
    OtherEffect first third where
  events := by
    obtain ⟨early, earlyHistory, earlyOther, earlyActive⟩ := one.events
    obtain ⟨late, lateHistory, lateOther, lateActive⟩ := two.events
    refine ⟨late ++ early, ?_, ?_, ?_⟩
    · rw [lateHistory, earlyHistory, append_assoc]
    · intro event member
      rcases mem_append.mp member with isLate | isEarly
      · exact one.event (lateOther event isLate)
      · exact earlyOther event isEarly
    · rcases earlyActive with ⟨same, kept⟩ | ⟨gone, active, held, took⟩
      · rcases lateActive with ⟨stillSame, stillKept⟩ | ⟨gone, active, held, took⟩
        · refine .inl ⟨stillSame.trans same, ?_⟩
          intro query member
          rcases mem_append.mp member with isLate | isEarly
          · exact stillKept query isLate
          · exact kept query isEarly
        · exact .inr ⟨gone, active, same ▸ held, mem_append_left _ took⟩
      · refine .inr ⟨?_, active, held, mem_append_right _ took⟩
        rcases lateActive with ⟨stillSame, -⟩ | ⟨stillGone, -⟩
        · exact stillSame.trans gone
        · exact stillGone
  worker := by
    obtain ⟨early, earlyHistory, earlyMove⟩ := one.worker
    obtain ⟨late, lateHistory, lateMove⟩ := two.worker
    refine ⟨late ++ early, ?_, earlyMove.trans lateMove⟩
    rw [lateHistory, earlyHistory, append_assoc]
  lateMarkerAllowed := two.lateMarkerAllowed.trans one.lateMarkerAllowed
  agentGeneration := two.agentGeneration.trans one.agentGeneration
  agentForwardGeneration := two.agentForwardGeneration.trans one.agentForwardGeneration
  pendingRejection := by
    rcases two.pendingRejection with same | gone
    · rw [same]
      exact one.pendingRejection
    · exact .inr gone
  signedQueryWrite := two.signedQueryWrite.trans one.signedQueryWrite
  sampleGates := two.sampleGates.trans one.sampleGates
  sampleGate := by
    rcases two.sampleGate with same | gone
    · rw [same]
      exact one.sampleGate
    · exact .inr gone
  gates := two.gates.trans one.gates
  inputGate := by
    rcases two.inputGate with same | gone
    · rw [same]
      exact one.inputGate
    · exact .inr gone
  gate := fun gate => (one.gate gate).trans (two.gate gate)
  failoverEligible := two.failoverEligible.trans one.failoverEligible
  failoverQuery := by
    intro armed held
    obtain ⟨middle, heldMiddle, sameLate⟩ := two.failoverQuery armed held
    obtain ⟨earlier, heldEarlier, sameEarly⟩ := one.failoverQuery middle heldMiddle
    exact ⟨earlier, heldEarlier, sameLate.number.trans sameEarly.number,
      sameLate.query.trans sameEarly.query,
      sameLate.terminator.trans sameEarly.terminator,
      sameLate.read.trans sameEarly.read⟩
  queries := two.queries.trans one.queries
  clientExited := two.clientExited.trans one.clientExited

/-! ## Actions -/

section Actions

variable {α : Type} {effect : State → State → Prop}

theorem bounded_atomically
    {change : State → α × State} (bounded : ∀ state, effect state (change state).2) :
    Within effect (atomically change) := by
  apply bounded_act
  intro input before answer after performed
  cases input with
  | tick =>
    have same : (change before).2 = after := congrArg Prod.snd (some.inj performed)
    rw [← same]
    exact bounded before
  | _ => cases performed

variable {allowed : State → Answer → State → Prop} {rules : Rules State}
  {ensures : α → State → Prop} {state : State}

theorem meetsWhen_atomically {change : State → α × State}
    (own : ∀ before, rules.rely state before → rules.invariant before →
        rules.invariant (change before).2 ∧
          rules.guarantee before (change before).2 ∧ ensures (change before).1 (change before).2) :
    MeetsWhen allowed rules (atomically change) ensures state := by
  apply meetsWhen_act
  intro before relied invariant input answer after performed _
  cases input with
  | tick =>
    have same : change before = (answer, after) := some.inj performed
    have kept := own before relied invariant
    rw [same] at kept
    exact kept
  | _ => cases performed

theorem meetsWhen_observe {read : State → α}
    (own : ∀ before, rules.rely state before → rules.invariant before →
        rules.guarantee before before ∧ ensures (read before) before) :
    MeetsWhen allowed rules (observe read) ensures state := by
  apply meetsWhen_act
  intro before relied invariant input answer after performed _
  cases input with
  | tick =>
    cases performed
    exact ⟨invariant, own before relied invariant⟩
  | _ => cases performed

theorem bounded_modify {change : State → State} (bounded : ∀ state, effect state (change state)) :
    Within effect (modify change) :=
  bounded_atomically bounded

theorem bounded_tell {event : Event} (bounded : ∀ state, effect state (state.record event)) :
    Within effect (tell event) :=
  bounded_atomically bounded

theorem bounded_write
    {step : Bool → State → State} (bounded : ∀ whole state, effect state (step whole state)) :
    Within effect (attempt step) := by
  apply bounded_answer
  intro input before
  cases input with
  | wrote whole => exact bounded whole before
  | _ => trivial

end Actions

/-! ## The upstream pump's operations -/

variable (config : Config) (decoded : Decoded) (codec : Nat) (state : State)

theorem other_settleSample (result : SampleResult) :
    OtherEffect state (state.settleSample result) := by
  unfold settleSample
  split
  · exact .refl state
  · exact { OtherEffect.refl state with sampleGate := .inr rfl }

theorem bounded_settleDeferredSample (result : SampleResult) :
    Within OtherEffect (settleDeferredSample result) :=
  bounded_modify fun state => other_settleSample state result

theorem bounded_consumeSample (raw : Bytes) : Within OtherEffect (consumeSample raw) := by
  apply bounded_modify
  intro state
  split
  · exact .refl state
  rename_i gate query armed
  have recorded : OtherEffect state (state.record (.sampleConsumed query raw)) :=
    .record ⟨gate, armed⟩ rfl
  have settled := other_settleSample (state.record (.sampleConsumed query raw)) (.block raw)
  have commute : (state.settleSample (.block raw)).record (.sampleConsumed query raw) =
      (state.record (.sampleConsumed query raw)).settleSample (.block raw) := by
    simp [settleSample, record, armed]
  rw [commute]
  exact recorded.trans settled

theorem bounded_modifyGate {gate : Nat} (moved : ∀ input, GateByOther input (change input)) :
    Within OtherEffect (modifyGate gate change) :=
  bounded_modify fun state => .withGate (moved (state.gate gate))

variable (gate : Nat)

theorem bounded_stopWriter : Within OtherEffect (stopWriter gate) :=
  bounded_modifyGate fun _ => ⟨rfl, rfl, rfl, rfl, rfl, .inl rfl, id, fun _ => rfl, id, id, id⟩

theorem bounded_markTerminalDecoded : Within OtherEffect (markTerminalDecoded gate) := by
  apply bounded_atomically
  intro state
  dsimp only
  apply OtherEffect.withGate
  exact ⟨rfl, rfl, rfl, rfl, rfl, .inl rfl, id, id, id, id, fun _ => rfl⟩

theorem bounded_claimUpstreamLifecycle : Within OtherEffect (claimUpstreamLifecycle gate) := by
  apply bounded_atomically
  intro state
  split
  · rename_i free
    dsimp only
    apply OtherEffect.withGate
    exact ⟨rfl, rfl, rfl, rfl, rfl, .inr ⟨free, rfl⟩, id, id, id, id, id⟩
  · exact .refl state

theorem bounded_abortGate : Within OtherEffect (abortGate gate) := by
  apply bounded_modify
  intro state
  split
  · exact .refl state
  · refine OtherEffect.trans
      (.withGate ⟨rfl, rfl, rfl, rfl, rfl, .inl rfl, id, id, fun _ => rfl, id, id⟩)
      (.record ⟨rfl, gate, ?_⟩ rfl)
    simp [withGate]

theorem bounded_completeGate : Within OtherEffect (completeGate gate) := by
  apply bounded_modify
  intro state
  split
  · exact .refl state
  · exact OtherEffect.trans
      (.withGate ⟨rfl, rfl, rfl, rfl, rfl, .inl rfl, id, id, id, fun _ => rfl, id⟩)
      (.record trivial rfl)

theorem bounded_clearDeferredInput : Within OtherEffect (clearDeferredInput gate) := by
  apply bounded_modify
  intro state
  split
  · exact { OtherEffect.refl state with inputGate := .inr rfl }
  · exact .refl state

theorem other_takeActive (state : State) : OtherEffect state state.takeActive.2 := by
  unfold takeActive
  split
  · exact .refl state
  rename_i active held
  refine { OtherEffect.refl state with
      events := ⟨[.took active.number], rfl, forall_mem_singleton.mpr ⟨active, held, rfl⟩,
          .inr ⟨rfl, active, held, mem_singleton.mpr rfl⟩⟩
      worker := ⟨[.took active.number], rfl, .stay (forall_mem_singleton.mpr rfl)⟩
      pendingRejection := ?_ }
  dsimp only
  split
  · exact .inr rfl
  · exact .inl rfl

theorem bounded_takeActiveQuery : Within OtherEffect takeActiveQuery :=
  bounded_atomically other_takeActive

theorem other_setTerminalHooks (terminalHooks : Option Bytes) :
    OtherEffect state { state with terminalHooks := terminalHooks } :=
  { OtherEffect.refl state with }

theorem bounded_onlyIf
    {effect : State → State → Prop}
    {code : Code Unit}
    (condition : Bool)
    (bounded : Within effect code) :
    Within effect (onlyIf condition code) := by
  cases condition with
  | true => exact bounded
  | false => exact bounded_pure trivial

/-- The points at which the upstream pump may continue. -/
def OtherPoint (next : Option Point) : Prop :=
  ∀ point, next = some point → point = .upstream ∨ ∃ codec, point = .opaqueCopy codec

abbrev OtherReturns (code : Code (Option Point)) : Prop := Bounded OtherEffect OtherPoint code

theorem otherPoint_none : OtherPoint none := by
  intro point same
  cases same

theorem otherPoint_upstream : OtherPoint (some .upstream) := by
  intro point same
  cases same
  exact .inl rfl

variable (codec : Nat)

theorem otherPoint_opaqueCopy : OtherPoint (some (.opaqueCopy codec)) := by
  intro point same
  cases same
  exact .inr ⟨codec, rfl⟩

/-! ## The upstream pump -/

theorem bounded_deliver : Within OtherEffect (deliver gate) :=
  bounded_seq (bounded_modifyGate fun _ =>
      ⟨rfl, rfl, rfl, rfl, rfl, .inl rfl, fun _ => rfl, id, id, id, id⟩)
    fun _ => bounded_clearDeferredInput gate

theorem bounded_completeAndDeliver : Within OtherEffect (completeAndDeliver gate) :=
  bounded_seq bounded_takeActiveQuery fun _ =>
    bounded_seq (bounded_completeGate gate) fun _ => bounded_deliver gate

theorem bounded_stopDeferredInput : Within OtherEffect (stopDeferredInput gate) :=
  bounded_seq (bounded_stopWriter gate) fun _ =>
    bounded_seq (bounded_abortGate gate) fun _ => bounded_ask .refl

theorem bounded_unblockInput : Within OtherEffect (unblockInput gate) := by
  apply bounded_choose (bounded_claimUpstreamLifecycle gate)
  · apply bounded_then (bounded_stopWriter gate)
    apply bounded_then (bounded_abortGate gate)
    apply bounded_then (bounded_ask .refl)
    exact bounded_completeAndDeliver gate
  · apply bounded_then (bounded_ask .refl)
    exact bounded_clearDeferredInput gate

theorem bounded_leaveUpstream : OtherReturns leaveUpstream := by
  apply bounded_then (bounded_settleDeferredSample .failed)
  apply bounded_seq (bounded_ask .refl)
  intro gate
  apply bounded_seq
  · cases gate with
    | some gate => exact bounded_unblockInput gate
    | none => exact bounded_pure trivial
  · intro _
    apply bounded_then (bounded_modify fun state =>
    { OtherEffect.refl state with })
    exact bounded_pure otherPoint_none

theorem bounded_failGate : OtherReturns (failGate gate) := by
  apply bounded_seq (bounded_stopDeferredInput gate)
  intro stopped
  apply bounded_then (bounded_onlyIf stopped (bounded_completeAndDeliver gate))
  exact bounded_leaveUpstream

theorem bounded_onQueryComplete : Within OtherEffect onQueryComplete :=
  bounded_tell fun _ => .record trivial rfl

theorem bounded_completeAndLeave (taken : Bool) :
    OtherReturns (onlyIf taken onQueryComplete >>= fun _ => leaveUpstream) := by
  apply bounded_then (bounded_onlyIf taken bounded_onQueryComplete)
  exact bounded_leaveUpstream

theorem bounded_upstreamFailed : OtherReturns (upstreamFailed codec) := by
  apply bounded_seq (bounded_ask .refl)
  intro bound
  split
  · exact bounded_pure otherPoint_upstream
  apply bounded_seq (bounded_ask .refl)
  intro gate
  cases gate with
  | some gate =>
    apply bounded_choose (bounded_claimUpstreamLifecycle gate)
    · apply bounded_then (bounded_settleDeferredSample .failed)
      exact bounded_failGate gate
    · exact bounded_leaveUpstream
  | none =>
    apply bounded_seq bounded_takeActiveQuery
    intro taken
    exact bounded_completeAndLeave taken

theorem bounded_relayRaw (bytes : Bytes) : Within OtherEffect (relayRaw codec bytes) := by
  unfold relayRaw
  split
  · exact bounded_pure trivial
  · exact bounded_write fun _ _ => .record trivial rfl

theorem bounded_startOpaqueCompletionProbe : Within OtherEffect startOpaqueCompletionProbe := by
  apply bounded_atomically
  intro state
  split
  · exact .refl state
  · exact { OtherEffect.refl state with }

theorem bounded_relayOpaqueResult (first : Bytes) :
    OtherReturns (relayOpaqueResult codec first) := by
  apply bounded_seq (bounded_ask .refl)
  intro active
  split
  · exact bounded_upstreamFailed codec
  apply bounded_choose (bounded_ask .refl)
  · exact bounded_upstreamFailed codec
  apply bounded_choose (bounded_ask .refl)
  · exact bounded_upstreamFailed codec
  apply bounded_choose bounded_startOpaqueCompletionProbe
  · split
    · exact bounded_upstreamFailed codec
    · apply bounded_choose (bounded_relayRaw codec first)
      · exact bounded_pure (otherPoint_opaqueCopy codec)
      · exact bounded_upstreamFailed codec
  · exact bounded_upstreamFailed codec

theorem bounded_opaqueCopy : OtherReturns (opaqueCopy codec) := by
  apply bounded_seq (bounded_ask .refl)
  intro read
  apply bounded_seq (bounded_relayRaw codec read.1)
  intro whole
  split
  · exact bounded_pure (otherPoint_opaqueCopy codec)
  · exact bounded_upstreamFailed codec

/-! ### Terminals -/

variable (packet : ServerPacket)

theorem bounded_exposeGate (gate : Option Nat) (exposed : Bool) :
    Within OtherEffect (exposeGate gate exposed) := by
  cases gate with
  | some gate =>
    refine bounded_then (bounded_modifyGate fun _ =>
      ⟨rfl, rfl, rfl, rfl, rfl, .inl rfl, id, id, id, id, id⟩) ?_
    exact bounded_deliver gate
  | none => exact bounded_pure trivial

theorem bounded_exposeTerminal
    (query : Option Nat)
    (packet : ServerPacket)
    (fatal : Bool) :
    OtherReturns (exposeTerminal decoded query packet fatal) := by
  apply bounded_seq (bounded_write fun _ _ => .record trivial rfl)
  intro whole
  apply bounded_then (bounded_exposeGate decoded.gate whole)
  split
  · exact bounded_pure otherPoint_upstream
  · exact bounded_leaveUpstream

theorem bounded_completeTerminal (taken : Option TakenQuery) :
    Within OtherEffect (completeTerminal decoded taken) := by
  apply bounded_seq
  · cases taken with
    | some query => exact bounded_onlyIf _ (bounded_tell fun _ => .record trivial rfl)
    | none => exact bounded_pure trivial
  intro _
  apply bounded_seq
  · unfold completeOnce
    split
    · exact bounded_completeGate _
    · exact bounded_onlyIf _ bounded_onQueryComplete
  · intro _
    exact bounded_onlyIf _ (bounded_modify fun state => other_setTerminalHooks state none)

theorem bounded_rewritePacket : Within OtherEffect (rewritePacket packet) := by
  cases packet with
  | exception original =>
    apply bounded_seq (bounded_ask .refl)
    intro rewritten
    exact bounded_pure trivial
  | _ => exact bounded_pure trivial

theorem bounded_terminalPacket (fatal : Bool) : OtherReturns (terminalPacket decoded fatal) := by
  apply bounded_seq (bounded_rewritePacket decoded.packet)
  intro packet
  refine bounded_seq (bounded_atomically fun state =>
    (other_takeActive state).trans (other_setTerminalHooks _ _)) ?_
  intro taken
  apply bounded_then (bounded_completeTerminal decoded taken)
  exact bounded_exposeTerminal decoded _ _ fatal

theorem bounded_leaveStopped : OtherReturns (leaveStopped gate) := by
  apply bounded_then (bounded_stopWriter gate)
  apply bounded_then (bounded_abortGate gate)
  exact bounded_leaveUpstream

theorem bounded_gatedException (exception : Exception) :
    OtherReturns (gatedException config decoded gate exception) := by
  unfold gatedException
  split
  · apply bounded_choose (bounded_ask .refl)
    · exact bounded_terminalPacket decoded false
    · exact bounded_leaveUpstream
  apply bounded_seq (bounded_ask .refl)
  intro marker
  split
  · apply bounded_then (bounded_abortGate gate)
    apply bounded_choose (bounded_ask .refl)
    · exact bounded_terminalPacket decoded false
    · exact bounded_leaveStopped gate
  · split
    · apply bounded_choose (bounded_ask .refl)
      · apply bounded_then (bounded_abortGate gate)
        exact bounded_terminalPacket decoded false
      · exact bounded_leaveStopped gate
    · apply bounded_choose (bounded_stopDeferredInput gate)
      · exact bounded_terminalPacket decoded true
      · exact bounded_leaveUpstream

theorem bounded_gatedEndOfStream : OtherReturns (gatedEndOfStream decoded gate) := by
  unfold gatedEndOfStream
  split
  · apply bounded_choose (bounded_ask .refl)
    · exact bounded_terminalPacket decoded false
    · exact bounded_leaveStopped gate
  · exact bounded_failGate gate

theorem bounded_splicedFailed (decoded : Decoded) : OtherReturns (splicedFailed decoded) := by
  unfold splicedFailed
  cases decoded.gate with
  | none => exact bounded_leaveUpstream
  | some gate =>
    apply bounded_choose (bounded_claimUpstreamLifecycle gate)
    · apply bounded_seq (bounded_onlyIf _ (bounded_settleDeferredSample .failed))
      intro _
      exact bounded_failGate gate
    · exact bounded_leaveUpstream

theorem bounded_answerPacket : OtherReturns (answerPacket config decoded) := by
  have relays : ∀ packet, OtherReturns (do
      if ← relayPacket decoded.codec packet then
        return some .upstream
      else
        splicedFailed decoded) := by
    intro packet
    apply bounded_choose (bounded_write fun _ _ => .record trivial rfl)
    · exact bounded_pure otherPoint_upstream
    · exact bounded_splicedFailed decoded
  unfold answerPacket
  cases decoded.packet with
  | exception exception =>
    cases decoded.gate with
    | some gate => exact bounded_gatedException config decoded gate exception
    | none => exact bounded_terminalPacket decoded false
  | endOfStream raw =>
    cases decoded.gate with
    | some gate => exact bounded_gatedEndOfStream decoded gate
    | none => exact bounded_terminalPacket decoded false
  | data raw | tableColumns raw | other code raw => exact relays _

theorem bounded_prematureEnd (decoded : Decoded) : OtherReturns (prematureEnd decoded) := by
  apply bounded_then (bounded_settleDeferredSample .failed)
  cases decoded.gate with
  | some gate => exact bounded_failGate gate
  | none =>
    apply bounded_seq bounded_takeActiveQuery
    intro taken
    exact bounded_completeAndLeave taken

theorem bounded_samplePacket : OtherReturns (samplePacket config decoded) := by
  unfold samplePacket
  cases decoded.packet with
  | data raw =>
    apply bounded_then (bounded_consumeSample raw)
    exact bounded_pure otherPoint_upstream
  | tableColumns raw => exact bounded_pure otherPoint_upstream
  | endOfStream raw =>
    dsimp only
    split
    · apply bounded_then (bounded_settleDeferredSample (.block none))
      exact bounded_answerPacket config decoded
    · exact bounded_prematureEnd decoded
  | exception exception =>
    apply bounded_then (bounded_settleDeferredSample (.exception exception))
    exact bounded_answerPacket config decoded
  | other code raw => exact bounded_answerPacket config decoded

theorem bounded_dispatchDecoded : OtherReturns (dispatchDecoded config decoded) := by
  unfold dispatchDecoded
  split
  · exact bounded_samplePacket config decoded
  · exact bounded_answerPacket config decoded

theorem bounded_terminalCancel : Within OtherEffect (terminalCancel gate) := by
  apply bounded_choose (bounded_markTerminalDecoded gate)
  · apply bounded_choose (bounded_ask .refl)
    · apply bounded_seq (bounded_ask .refl)
      intro whole
      exact bounded_pure trivial
    · exact bounded_pure trivial
  · exact bounded_pure trivial

theorem bounded_arbitrate : OtherReturns (arbitrate config decoded gate) := by
  apply bounded_seq (bounded_terminalCancel gate)
  intro cancel
  apply bounded_choose (bounded_claimUpstreamLifecycle gate)
  · cases cancel with
    | none =>
      apply bounded_then (bounded_settleDeferredSample .failed)
      exact bounded_failGate gate
    | some canceled =>
      refine bounded_seq (bounded_onlyIf _ (bounded_modifyGate fun _ =>
        ⟨rfl, rfl, rfl, rfl, rfl, .inl rfl, id, id, id, id, id⟩)) ?_
      intro _
      exact bounded_dispatchDecoded config _
  · exact bounded_leaveUpstream

theorem bounded_upstreamPacket : OtherReturns (upstreamPacket config codec packet) := by
  apply bounded_seq (bounded_ask .refl)
  intro waiting
  apply bounded_seq (bounded_ask .refl)
  intro gate
  apply bounded_seq (bounded_ask .refl)
  intro terminator
  cases gate with
  | some gate =>
    dsimp only
    split
    · exact bounded_arbitrate config _ gate
    · exact bounded_dispatchDecoded config _
  | none => exact bounded_dispatchDecoded config _

/-! ### Failover -/

theorem bounded_lockFailover : Within OtherEffect lockFailover := by
  apply bounded_answer
  intro input before
  cases input with
  | tick =>
    dsimp only
    split
    · trivial
    · exact { OtherEffect.refl before with }
  | _ => trivial

/-- The armed query is dropped, or it stays the same query. -/
theorem other_armed {armed : Option FailoverQuery} (database : Bytes)
    (same : ∀ query, armed = some query →
        ∃ earlier, state.failoverQuery = some earlier ∧ SameArmed earlier query) :
    OtherEffect state { state with failoverQuery := armed, logicalDatabase := database } :=
  { OtherEffect.refl state with failoverQuery := same }

theorem other_disarmed (database : Bytes) : OtherEffect state
    { state with failoverQuery := none, logicalDatabase := database } := by
  apply other_armed
  intro query held
  cases held

variable (read : UpstreamRead)

theorem other_noteAnswer : OtherEffect state (state.noteAnswer read) := by
  unfold noteAnswer
  cases held : state.failoverQuery with
  | none => exact .refl state
  | some armed =>
    -- The first packet of the answer, decoded or not.
    have answered : OtherEffect state { state with
        failoverQuery := some { armed with answered := true, moving := none } } := by
      apply other_armed state
      intro query same
      cases same
      exact ⟨armed, held, rfl, rfl, rfl, rfl⟩
    cases read with
    | eof | failed => exact other_disarmed state _
    | unsupported first => exact answered
    | packet packet =>
      cases packet with
      | exception exception | endOfStream raw => exact other_disarmed state _
      | data raw | tableColumns raw | other code raw => exact answered

theorem bounded_setMoving (moving : ReadFailover) : Within OtherEffect (setMoving moving) := by
  apply bounded_modify
  intro state
  apply other_armed state
  intro query same
  obtain ⟨earlier, held, rfl⟩ := map_eq_some_iff.mp same
  exact ⟨earlier, held, rfl, rfl, rfl, rfl⟩

theorem bounded_writeArmed {codec : Nat} {packet : FailoverQuery → Option UpstreamPacket}
    (resends : ∀ armed resent, packet armed = some resent → armed.resends resent) :
    Within OtherEffect (writeArmed codec packet) := by
  apply bounded_answer
  intro input before
  cases input with
  | wrote whole =>
    cases held : before.failoverQuery with
    | none => trivial
    | some armed =>
      dsimp only
      cases same : packet armed with
      | none => exact .refl before
      | some resent => exact .record ⟨armed, held, rfl, resends armed resent same⟩ rfl
  | _ => trivial

theorem bounded_dialCandidate : Within OtherEffect dialCandidate := by
  apply bounded_answer
  intro input before
  cases input with
  | flag dialed =>
    cases dialed with
    | true => exact { OtherEffect.refl before with }
    | false => exact .refl before
  | _ => trivial

theorem bounded_prepareReadCandidate : Within OtherEffect prepareReadCandidate := by
  apply bounded_seq bounded_dialCandidate
  intro dialed
  cases dialed with
  | none => exact bounded_pure trivial
  | some codec =>
    apply bounded_seq
    · apply bounded_writeArmed
      intro armed resent same
      exact .inl (some.inj same).symm
    intro whole
    split
    · apply bounded_seq
      · apply bounded_writeArmed
        intro armed resent same
        obtain ⟨data, held, rfl⟩ := map_eq_some_iff.mp same
        exact .inr ⟨data, held, rfl⟩
      intro terminated
      split <;> exact bounded_pure trivial
    · exact bounded_pure trivial

theorem bounded_rebindUpstream : Within OtherEffect (rebindUpstream codec) := by
  apply bounded_answer
  intro input before
  cases input with
  | flag bound =>
    cases bound with
    | true =>
      have other : OtherEvent before (.rebound codec) := trivial
      exact OtherEffect.trans (.record other rfl)
        { OtherEffect.refl (before.record (.rebound codec)) with }
    | false => exact .refl before
  | _ => trivial

theorem bounded_readFailoverTo (addresses : List Bytes) :
    Within OtherEffect (readFailoverTo addresses) := by
  induction addresses with
  | nil => exact bounded_pure trivial
  | cons address remaining inductionHypothesis =>
    apply bounded_seq bounded_prepareReadCandidate
    intro prepared
    cases prepared with
    | none => exact inductionHypothesis
    | some codec =>
      apply bounded_choose (bounded_rebindUpstream codec)
      · apply bounded_choose (bounded_ask .refl)
        · exact bounded_pure trivial
        · exact bounded_pure trivial
      · exact inductionHypothesis

theorem bounded_failsOver (read : UpstreamRead) : Within OtherEffect (failsOver armed read) := by
  unfold failsOver
  split
  · apply bounded_choose (bounded_ask .refl)
    · exact bounded_ask .refl
    · exact bounded_pure trivial
  · exact bounded_pure trivial

theorem bounded_startMove (read : UpstreamRead) :
    Within OtherEffect (startMove armed codec read) := by
  unfold startMove
  cases armed.moving with
  | some moving => exact bounded_pure trivial
  | none =>
    apply bounded_seq (bounded_ask .refl)
    intro candidates
    cases candidates with
    | none | some addresses => exact bounded_pure trivial

theorem bounded_failoverRead : Within OtherEffect (failoverRead codec read) := by
  -- Every way out of the failover gives its lock back.
  have unlocks : ∀ result : Option (Nat × UpstreamRead), Within OtherEffect (do
      unlockFailover
      return result) :=
    fun _ => bounded_seq (bounded_modify fun state => { OtherEffect.refl state with })
      fun _ => bounded_pure trivial
  have disarms : ∀ result : Option (Nat × UpstreamRead), Within OtherEffect (do
      disarmFailover
      unlockFailover
      return result) :=
    fun result => bounded_seq (bounded_modify fun state => other_disarmed state _)
      fun _ => unlocks result
  apply bounded_then bounded_lockFailover
  apply bounded_seq (bounded_ask .refl)
  intro held
  cases held with
  | none => exact unlocks _
  | some armed =>
    apply bounded_choose (bounded_failsOver armed read)
    · apply bounded_seq (bounded_startMove armed codec read)
      intro started
      cases started with
      | none => exact disarms _
      | some moving =>
        apply bounded_seq (bounded_readFailoverTo moving.remaining)
        intro moved
        cases moved with
        | none => exact disarms _
        | some remaining =>
          apply bounded_then (bounded_setMoving _)
          exact unlocks _
    · apply bounded_then (bounded_modify fun state => other_noteAnswer state read)
      exact unlocks _

/-! ## The other threads -/

theorem bounded_readUpstream : Within OtherEffect (readUpstream codec) := by
  apply bounded_answer
  intro input before
  cases input with
  | upstreamRead read =>
    cases read with
    | packet packet => exact .record trivial rfl
    | unsupported first | eof | failed => exact .refl before
  | _ => trivial

theorem bounded_afterFailover : Within OtherEffect (afterFailover config codec read) := by
  unfold afterFailover
  split
  · exact bounded_failoverRead codec read
  · exact bounded_pure trivial

theorem bounded_upstreamToClient (config : Config) : OtherReturns (upstreamToClient config) := by
  apply bounded_seq (bounded_ask .refl)
  intro codec
  apply bounded_seq (bounded_readUpstream codec)
  intro read
  apply bounded_seq (bounded_afterFailover config codec read)
  intro handled
  cases handled with
  | none => exact bounded_pure otherPoint_upstream
  | some result =>
    obtain ⟨source, read⟩ := result
    cases read with
    | packet packet => exact bounded_upstreamPacket config source packet
    | unsupported first => exact bounded_relayOpaqueResult codec first
    | eof | failed => exact bounded_upstreamFailed codec

theorem bounded_stageWorker : Bounded OtherEffect (· = some .stageWorker) stageWorker := by
  refine bounded_then ?_ (bounded_pure rfl)
  apply bounded_act
  intro input before answer after performed
  split at performed
  · rename_i error plans query stage held
    cases performed
    exact
      { OtherEffect.refl before with
        events := ⟨[.stageReturned query stage error], rfl, forall_mem_singleton.mpr held,
          .inl ⟨rfl, fun _ => by simp⟩⟩
        worker := ⟨[.stageReturned query stage error], rfl,
          .returned held (List.nil_append _).symm (forall_mem_nil _)⟩ }
  · cases performed

theorem bounded_supervise : Bounded OtherEffect (· = none) supervise := by
  apply bounded_then (bounded_ask .refl)
  apply bounded_then (bounded_modify fun state => { OtherEffect.refl state with })
  apply bounded_then (bounded_ask .refl)
  apply bounded_then (bounded_tell fun _ => .record trivial rfl)
  exact bounded_pure rfl

theorem bounded_probe : Bounded OtherEffect (· = none) probe := by
  apply bounded_seq (bounded_ask .refl)
  intro finished
  apply bounded_seq
  · apply bounded_onlyIf
    apply bounded_seq bounded_takeActiveQuery
    intro taken
    exact bounded_onlyIf taken bounded_onQueryComplete
  intro _
  apply bounded_then (bounded_modify fun state => { OtherEffect.refl state with })
  exact bounded_pure rfl

theorem bounded_shutdown : Bounded OtherEffect (· = none) shutdown := by
  apply bounded_then (bounded_modify fun state => { OtherEffect.refl state with })
  exact bounded_pure rfl

end HouseGate.Relay
