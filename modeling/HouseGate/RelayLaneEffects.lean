import HouseGate.RelayEffects

namespace HouseGate.Relay

open DecimalText EffectProgram State

/-!
# What the client pump may do for one query

The client pump serves a query in one of four lanes.  Each lane is bounded
once: the events it may leave behind, all of them about its own query, and the
fields it may change.  A property of one lane then needs only this bound for
the other three.
-/

/-- The ways in which the client's pump serves a query. -/
inductive Lane where
  | agent
  | queryOnly
  | signed
  | ordinary
  deriving DecidableEq

/-- Whether the query of the lane goes through the pump's own forwarding. -/
def Lane.splices (lane : Lane) : Prop := lane = .ordinary ∨ lane = .agent

def LaneEvent (lane : Lane) (number : Nat) (state : State) (event : Event) : Prop :=
  match event with
  | .onQueryComplete => True
  | .onQueryAbort query unsent =>
    query = number ∧ (unsent = true → lane = .signed) ∨
      unsent = false ∧ lane = .signed ∧ ∃ gate, query = (state.gate gate).context.number
  | .toClient query _ => query = some number ∨ query = none ∧ lane = .ordinary
  | .began query => query = number
  | .took query | .canceled query => ∃ active, state.active = some active ∧ query = active.number
  | .prepareEntered query | .prepareCanceled query | .forwardGateWon query
  | .reconcileCancel query | .forwardUnknown query | .stageEntered query _
  | .stageStopped query => query = number ∧ lane = .agent
  | .armed _ query | .encoded query _ => query = number ∧ lane = .signed
  | .onClientDataStrict query _ | .strictReturned query _
  | .onQueryInputComplete query => query = number ∧ (lane = .signed ∨ lane = .ordinary)
  | .strictEntered context _ => context.number = number ∧ (lane = .signed ∨ lane = .ordinary)
  | .rejectionArmed query _ =>
    lane = .ordinary ∧ ∃ active, state.active = some active ∧ query = active.number
  | .toUpstream _ query _ _ =>
    query = some number ∧ lane ≠ .queryOnly ∨ query = none ∧ lane = .ordinary
  | _ => False

/-- The active slot as the client pump may leave it. -/
inductive SlotMove (number : Nat) (events : List Event)
    (before : Option ActiveQuery) : Option ActiveQuery → Prop where
  | stay : SlotMove number events before before
  | begin (free : before = none) (id : Bytes) (recorded : .began number ∈ events) :
      SlotMove number events before (some ⟨number, id, false⟩)
  | take {active : ActiveQuery}
      (held : before = some active) (recorded : .took active.number ∈ events) :
      SlotMove number events before none
  | cancel {active : ActiveQuery} (held : before = some active) :
      SlotMove number events before (some { active with canceled := true })

/-- What a lane's own step may do. -/
structure LaneEffect
    (lane : Lane)
    (number : Nat)
    (before after : State) : Prop where
  events : ∃ events, after.history = events ++ before.history ∧
      (∀ event ∈ events, LaneEvent lane number before event) ∧
      SlotMove number events before.active after.active
  queries : after.queries = before.queries
  generations : lane ≠ .agent → after.agentGeneration = before.agentGeneration ∧
      after.agentForwardGeneration = before.agentForwardGeneration
  rejection : lane ≠ .ordinary →
      after.pendingRejection = before.pendingRejection ∨ after.pendingRejection = none
  failover : ¬lane.splices →
      after.failoverQuery = before.failoverQuery ∧ after.failoverEligible = before.failoverEligible
  armed : ∀ armed, after.failoverQuery = some armed → armed.number = number ∨
        ∃ earlier, before.failoverQuery = some earlier ∧ armed.number = earlier.number
  contexts : ∀ gate, (after.gate gate).context = (before.gate gate).context ∨
      lane = .signed ∧ (after.gate gate).context.number = number
  sampled : ∀ gate query, after.sampleGate = some (gate, query) →
      query = number ∨ before.sampleGate = some (gate, query)
  gates : lane ≠ .signed → after.gates = before.gates ∧ after.gate = before.gate ∧
      after.inputGate = before.inputGate ∧
      after.sampleGate = before.sampleGate ∧
      after.sampleResult = before.sampleResult ∧ after.signedQueryWrite = before.signedQueryWrite
  worker : ∀ query stage, after.worker = .running query stage →
      before.worker = .running query stage ∨ query = number ∧ lane = .agent
  session : after.upstream = before.upstream ∧ after.codecs = before.codecs ∧
      after.failoverLocked = before.failoverLocked ∧ after.terminalHooks = before.terminalHooks

section Effects

variable {lane : Lane} {number : Nat} {state : State}

theorem LaneEffect.refl : LaneEffect lane number state state where
  events := ⟨[], rfl, List.forall_mem_nil _, .stay⟩
  queries := rfl
  generations := fun _ => ⟨rfl, rfl⟩
  rejection := fun _ => .inl rfl
  failover := fun _ => ⟨rfl, rfl⟩
  armed := fun armed held => .inr ⟨armed, held, rfl⟩
  contexts := fun _ => .inl rfl
  sampled := fun _ _ held => .inr held
  gates := fun _ => ⟨rfl, rfl, rfl, rfl, rfl, rfl⟩
  worker := fun _ _ running => .inl running
  session := ⟨rfl, rfl, rfl, rfl⟩

variable {generation forwardGeneration : Nat}

/-- One event, and a move of the slot or of a field that the lane owns. -/
theorem LaneEffect.event
    {event : Event}
    {active : Option ActiveQuery}
    {pendingRejection : Option (Bytes × Exception)}
    (own : LaneEvent lane number state event)
    (slot : SlotMove number [event] state.active active)
    (rejection :
      lane ≠ .ordinary → pendingRejection = state.pendingRejection ∨ pendingRejection = none)
    (generations : lane ≠ .agent →
        generation = state.agentGeneration ∧ forwardGeneration = state.agentForwardGeneration) :
    LaneEffect lane number state { state with
        active := active
        pendingRejection := pendingRejection
        agentGeneration := generation
        agentForwardGeneration := forwardGeneration
        history := event :: state.history } :=
  { (LaneEffect.refl : LaneEffect lane number state state) with
    events := ⟨[event], rfl, List.forall_mem_singleton.mpr own, slot⟩
    generations
    rejection }

/-- One event and nothing else. -/
theorem LaneEffect.record
    {event : Event}
    (own : LaneEvent lane number state event) :
    LaneEffect lane number state (state.record event) :=
  .event own .stay (fun _ => .inl rfl) fun _ => ⟨rfl, rfl⟩

/-- The worker of a stage starts. -/
theorem LaneEffect.work {stage : Stage} :
    LaneEffect .agent number state { state with
        worker := .running number stage
        history := .stageEntered number stage :: state.history } :=
  { (LaneEffect.record ⟨rfl, rfl⟩ : LaneEffect .agent number state
      (state.record (.stageEntered number stage))) with
    worker := by
      intro query other running
      cases running
      exact .inr ⟨rfl, rfl⟩ }

/-- No event, and a change of fields that the bound does not speak of. -/
theorem LaneEffect.silent {lateMarkerAllowed clientExited : Bool}
    (generations : lane ≠ .agent →
        generation = state.agentGeneration ∧ forwardGeneration = state.agentForwardGeneration) :
    LaneEffect lane number state { state with
        lateMarkerAllowed := lateMarkerAllowed
        clientExited := clientExited
        agentGeneration := generation
        agentForwardGeneration := forwardGeneration } :=
  { (LaneEffect.refl : LaneEffect lane number state state) with generations }

theorem lane_takeActive : LaneEffect lane number state state.takeActive.2 := by
  unfold takeActive
  split
  · exact .refl
  rename_i active held
  refine .event ⟨active, held, rfl⟩ (.take held (List.mem_singleton.mpr rfl)) ?_ fun _ => ⟨rfl, rfl⟩
  intro _
  split
  · exact .inr rfl
  · exact .inl rfl

theorem lane_cancelActive : LaneEffect lane number state state.cancelActive := by
  unfold cancelActive
  split
  · exact .refl
  · rename_i active held
    exact .event ⟨active, held, rfl⟩ (.cancel held) (fun _ => .inl rfl) fun _ => ⟨rfl, rfl⟩

end Effects

/-- Every gate keeps its context, or is the lane's own. -/
def GateContexts (number : Nat) (before after : Nat → InputGate) : Prop :=
  ∀ gate, (after gate).context = (before gate).context ∨ (after gate).context.number = number

theorem gateContexts_refl (number : Nat) (gates : Nat → InputGate) :
    GateContexts number gates gates :=
  fun _ => .inl rfl

variable {number : Nat}

theorem gateContexts_update
    {gates : Nat → InputGate}
    {gate : Nat}
    {input : InputGate}
    (context : input.context = (gates gate).context ∨ input.context.number = number) :
    GateContexts number gates (Function.update gates gate input) := by
  intro other
  by_cases same : other = gate
  · subst same
    simpa using context
  · simp [same]

variable {gate : Nat → InputGate} {state : State}

/-- A change of the fields that the signed lanes own. -/
theorem lane_gates
    (sampleGates : Nat)
    {sampleGate : Option (Nat × Nat)}
    (sampled : ∀ gate query,
        sampleGate = some (gate, query) → query = number ∨ state.sampleGate = some (gate, query))
    (gates : Nat)
    (inputGate : Option Nat)
    (contexts : GateContexts number state.gate gate)
    (signedQueryWrite : Option (Nat × Bytes)) :
    LaneEffect .signed number state { state with
        sampleGates := sampleGates
        sampleGate := sampleGate
        gates := gates
        inputGate := inputGate
        gate := gate
        signedQueryWrite := signedQueryWrite } :=
  { (LaneEffect.refl : LaneEffect .signed number state state) with
    contexts := fun gate => (contexts gate).imp id fun own => ⟨rfl, own⟩
    sampled
    gates := fun other => (other rfl).elim }

/-- The same with one event. -/
theorem lane_gatesAndEvent
    {event : Event}
    (own : LaneEvent .signed number state event)
    (gates : Nat)
    (inputGate : Option Nat)
    (contexts : GateContexts number state.gate gate) :
    LaneEffect .signed number state { state with
        gates := gates
        inputGate := inputGate
        gate := gate
        history := event :: state.history } :=
  { LaneEffect.record own with
    contexts := fun gate => (contexts gate).imp id fun own => ⟨rfl, own⟩
    gates := fun other => (other rfl).elim }

variable {lane : Lane}

/-- What is written upstream may arm or disarm the failover. -/
theorem lane_splice {event : Event} (splices : lane.splices)
    (own : LaneEvent lane number state event) {failoverQuery : Option FailoverQuery}
    (armed : ∀ armed, failoverQuery = some armed → armed.number = number ∨
          ∃ earlier, state.failoverQuery = some earlier ∧ armed.number = earlier.number)
    (failoverEligible : Bool) :
    LaneEffect lane number state { state with
        failoverQuery := failoverQuery
        failoverEligible := failoverEligible
        history := event :: state.history } :=
  { LaneEffect.record own with
    failover := fun other => (other splices).elim
    armed }

/-- Where a lane may let the client pump continue. -/
def Returns (lane : Lane) (number : Nat) (next : Option Point) : Prop :=
  match next with
  | none => True
  | some (.client locals) =>
    (∀ current, locals.current = some current → current.context.number = number ∧ lane.splices) ∧
      ∀ rejected, locals.rejected = some rejected → rejected.number = number
  | some (.awaitPrepare context _) | some (.agentStage context _ _ _) =>
    context.number = number ∧ lane = .agent
  | some (.queryOnly context _ _) => context.number = number ∧ lane = .queryOnly
  | some (.collect context _) => context.number = number ∧ lane = .signed
  | some (.awaitSample forward) | some (.awaitTerminal forward) =>
    forward.context.number = number ∧ lane = .signed
  | some _ => False

/-- A lane that goes on from a point where its client is served. -/
abbrev LaneReturns (lane : Lane) (number : Nat) (code : Code (Option Point)) : Prop :=
  Bounded (LaneEffect lane number) (Returns lane number) code

/-- The pump goes on without a query in its hands. -/
theorem returns_client (prefetched : Option ClientRead) : Returns lane number
    (some (.client { ClientLocals.fresh with prefetched := prefetched })) := by
  refine ⟨?_, ?_⟩
  · intro current same
    cases same
  · intro rejected same
    cases same

variable (context : QueryContext)

theorem returns_endRejected : Returns lane context.number (endRejected context) := by
  refine ⟨?_, ?_⟩
  · intro current same
    cases same
  · intro rejected same
    cases same
    rfl

/-! ## Ends of a query -/

section Ends

theorem lane_leaveClient : LaneReturns lane number leaveClient := by
  apply bounded_then (bounded_modify fun _ => .silent fun _ => ⟨rfl, rfl⟩)
  exact bounded_pure trivial

theorem lane_takeActiveQuery : Within (LaneEffect lane number) takeActiveQuery :=
  bounded_atomically fun _ => lane_takeActive

theorem lane_cancelActiveQuery : Within (LaneEffect lane number) cancelActiveQuery :=
  bounded_modify fun _ => lane_cancelActive

theorem lane_onQueryComplete : Within (LaneEffect lane number) onQueryComplete :=
  bounded_tell fun _ => .record trivial

theorem lane_onQueryAbort : Within (LaneEffect lane context.number) (onQueryAbort context) :=
  bounded_tell fun _ => .record (.inl ⟨rfl, nofun⟩)

theorem lane_writeException (error : HookError) :
    Within (LaneEffect lane number) (writeExceptionToClient (some number) error) :=
  bounded_tell fun _ => .record (.inl rfl)

theorem lane_writeClient (packet : ServerPacket) :
    Within (LaneEffect lane number) (writeClient (some number) packet) :=
  bounded_write fun _ _ => .record (.inl rfl)

theorem lane_abortAndComplete :
    Within (LaneEffect lane context.number) (abortAndComplete context) :=
  bounded_seq (lane_onQueryAbort context) fun _ => lane_onQueryComplete

variable (context : QueryContext) (error : HookError)

theorem lane_refuse : Within (LaneEffect lane context.number) (refuse context error) :=
  bounded_seq (lane_writeException error) fun _ => lane_abortAndComplete context

theorem lane_refuseAfterHooks :
    Within (LaneEffect lane context.number) (refuseAfterHooks context error) :=
  bounded_seq (lane_abortAndComplete context) fun _ => lane_writeException error

theorem lane_refuseAndLeave : LaneReturns lane context.number (refuseAndLeave context error) :=
  bounded_seq (lane_refuse context error) fun _ => lane_leaveClient

/-- The query is refused and the pump takes the next packet. -/
theorem lane_refuseAndResume :
    LaneReturns lane context.number (refuse context error >>= fun _ => pure nextPacket) :=
  bounded_seq (lane_refuse context error) fun _ => bounded_pure (returns_client none)

end Ends

/-! ## Reads -/

theorem lane_ask {α : Type} {read : Answer → State → Option α} :
    Within (LaneEffect lane number) (.ask read) :=
  bounded_ask fun _ => .refl

/-! ## Query-only execution -/

section QueryOnly

theorem lane_allowMarker (allowed : Bool) : Within (LaneEffect lane number) (allowMarker allowed) :=
  bounded_modify fun _ => .silent fun _ => ⟨rfl, rfl⟩

variable (config : Config) (context : QueryContext)

theorem lane_queryOnlyFailed (allowLateMarker : Bool) (error : HookError) :
    LaneReturns .queryOnly context.number
      (queryOnlyFailed config context allowLateMarker error) := by
  apply bounded_then lane_takeActiveQuery
  apply bounded_then (lane_allowMarker allowLateMarker)
  exact lane_refuseAndResume context _

theorem lane_queryOnlyDesynchronized :
    LaneReturns .queryOnly context.number (queryOnlyDesynchronized config context) := by
  apply bounded_then lane_takeActiveQuery
  exact lane_refuseAndLeave context _

theorem lane_queryOnlyDisconnected {number : Nat} :
    LaneReturns .queryOnly number queryOnlyDisconnected := by
  apply bounded_then lane_takeActiveQuery
  exact lane_leaveClient

theorem lane_answerEndOfStream : LaneReturns lane context.number (answerEndOfStream context) := by
  apply bounded_choose (lane_writeClient endOfStreamPacket)
  · exact bounded_pure (returns_client none)
  · exact lane_leaveClient

variable (markerSeen : Bool)

theorem lane_queryOnlyCanceled :
    LaneReturns .queryOnly context.number (queryOnlyCanceled context markerSeen) := by
  apply bounded_then lane_ask
  apply bounded_then lane_takeActiveQuery
  apply bounded_then (lane_abortAndComplete context)
  apply bounded_then (lane_allowMarker _)
  exact lane_answerEndOfStream context

theorem lane_queryOnlySucceeded :
    LaneReturns .queryOnly context.number (queryOnlySucceeded config context markerSeen) := by
  apply bounded_seq (bounded_atomically fun _ => lane_takeActive)
  intro taken
  cases taken with
  | none => exact lane_refuseAndResume context _
  | some taken =>
    dsimp only
    split
    · exact lane_refuseAndResume context _
    · apply bounded_then lane_onQueryComplete
      apply bounded_then (lane_allowMarker _)
      exact lane_answerEndOfStream context

theorem lane_queryOnlyData (data : DataPacket) :
    LaneReturns .queryOnly context.number (queryOnlyData config context markerSeen data) := by
  unfold queryOnlyData
  split
  · exact bounded_pure ⟨rfl, rfl⟩
  · apply bounded_then lane_cancelActiveQuery
    exact lane_queryOnlyFailed config context _ _

theorem lane_queryOnly (markerSeen canceled : Bool) :
    LaneReturns .queryOnly context.number (queryOnly config context markerSeen canceled) := by
  unfold queryOnly
  split
  · exact lane_queryOnlyCanceled context markerSeen
  apply bounded_seq lane_ask
  intro polled
  split
  · exact lane_queryOnlyFailed config context _ _
  · exact lane_queryOnlySucceeded config context markerSeen
  apply bounded_seq lane_ask
  intro wait
  cases wait with
  | notReady => exact bounded_pure ⟨rfl, rfl⟩
  | eof =>
    apply bounded_then lane_cancelActiveQuery
    exact lane_queryOnlyDisconnected
  | failed =>
    apply bounded_then lane_cancelActiveQuery
    exact lane_queryOnlyDesynchronized config context
  | ready =>
    apply bounded_seq lane_ask
    intro read
    split
    · apply bounded_then lane_cancelActiveQuery
      exact lane_queryOnlyDisconnected
    · apply bounded_then lane_cancelActiveQuery
      exact lane_queryOnlyDisconnected
    · apply bounded_then lane_cancelActiveQuery
      exact lane_queryOnlyDesynchronized config context
    · apply bounded_then lane_cancelActiveQuery
      exact lane_queryOnlyDesynchronized config context
    · apply bounded_then lane_cancelActiveQuery
      exact lane_queryOnlyDesynchronized config context
    · apply bounded_then lane_cancelActiveQuery
      exact bounded_pure ⟨rfl, rfl⟩
    · exact lane_queryOnlyData config context markerSeen _
    · apply bounded_then lane_cancelActiveQuery
      exact lane_queryOnlyFailed config context false _

/-- A query takes the free slot. -/
theorem lane_begin
    {id : Bytes} (busy : ¬(state.active.isSome || state.terminalHooks.isSome) = true) :
    LaneEffect lane number state { state with
        active := some ⟨number, id, false⟩
        history := .began number :: state.history } := by
  have free : state.active = none := by
    cases active : state.active with
    | none => rfl
    | some query => simp [active] at busy
  exact .event rfl (.begin free id (List.mem_singleton.mpr rfl))
    (fun _ => .inl rfl) fun _ => ⟨rfl, rfl⟩

theorem lane_beginActiveQuery (id : Bytes) :
    Within (LaneEffect lane context.number) (beginActiveQuery context id) := by
  apply bounded_atomically
  intro state
  split
  · exact .refl
  · rename_i busy
    exact lane_begin busy

theorem lane_runQueryOnly (valid : Bool) :
    LaneReturns .queryOnly context.number (runQueryOnly config context valid) := by
  unfold runQueryOnly
  split
  · exact lane_refuseAndResume context _
  · apply bounded_choose (lane_beginActiveQuery context context.query.id)
    · exact bounded_pure ⟨rfl, rfl⟩
    · exact lane_refuseAndResume context _

end QueryOnly

/-! ## Ordinary forwarding -/

variable (config : Config)

section Ordinary

/-- A client packet keeps the armed query or disarms it. -/
theorem noteSpliced_fields
    (state : State)
    (packet : ClientPacket)
    (inputComplete : Bool) :
    ∃ failoverQuery failoverEligible, state.noteSpliced packet inputComplete = { state with
        failoverQuery := failoverQuery
        failoverEligible := failoverEligible } ∧
        ∀ armed, failoverQuery = some armed →
          ∃ earlier, state.failoverQuery = some earlier ∧ armed.number = earlier.number := by
  unfold noteSpliced
  split
  · rename_i armed _ held
    split
    · refine ⟨_, _, rfl, ?_⟩
      intro later same
      cases same
      exact ⟨armed, held, rfl⟩
    · exact ⟨_, _, rfl, nofun⟩
  · exact ⟨_, _, rfl, nofun⟩
  · exact ⟨_, _, rfl, fun later held => ⟨later, held, rfl⟩⟩
  · exact ⟨_, _, rfl, fun later held => ⟨later, held, rfl⟩⟩

theorem failoverFor_number {context : QueryContext} {armed : FailoverQuery}
    (same : state.failoverFor context = some armed) :
    armed.number = context.number := by
  unfold failoverFor at same
  split at same
  · split at same
    · cases same
    · cases same
      rfl
    · cases same
      rfl
  · cases same

theorem lane_writeQuery
    (codec : Nat)
    (context : QueryContext)
    (splices : lane.splices) :
    Within (LaneEffect lane context.number) (writeQuery config codec context) := by
  have forwards : lane ≠ .queryOnly := by
    rcases splices with rfl | rfl <;> nofun
  have own : ∀ state whole, LaneEvent lane context.number state
      (.toUpstream codec context.number (.query context.query) whole) :=
    fun _ _ => .inl ⟨rfl, forwards⟩
  unfold writeQuery
  split
  · apply bounded_answer
    intro input before
    cases input with
    | wrote whole =>
      dsimp only
      split
      · trivial
      · exact lane_splice splices (own before _)
          (fun armed same => .inl (failoverFor_number same)) _
    | _ => trivial
  · exact bounded_write fun _ before => .record (own before _)

theorem lane_spliceClientPacket
    {number : Nat}
    {query : Option Nat}
    (codec : Nat)
    (packet : ClientPacket)
    (inputComplete : Bool)
    (about : query = some number ∨ query = none) :
    Within (LaneEffect .ordinary number)
      (spliceClientPacket config codec query packet inputComplete) := by
  have own : ∀ state target whole,
      LaneEvent .ordinary number state (.toUpstream target query (spliced packet) whole) := by
    intro state target whole
    rcases about with same | none
    · exact .inl ⟨same, nofun⟩
    · exact .inr ⟨none, rfl⟩
  unfold spliceClientPacket
  split
  · apply bounded_answer
    intro input before
    cases input with
    | wrote whole =>
      dsimp only
      split
      · trivial
      · obtain ⟨armed, eligible, noted, kept⟩ := noteSpliced_fields before packet inputComplete
        rw [noted]
        exact lane_splice (.inl rfl) (own before _ _) (fun later same => .inr (kept later same)) _
    | _ => trivial
  · exact bounded_write fun _ before => .record (own before _ _)

theorem lane_forwardOrdinary
    (codec : Nat)
    (context : QueryContext)
    (splices : lane.splices) :
    LaneReturns lane context.number (forwardOrdinary config codec context) := by
  apply bounded_choose (lane_writeQuery config codec context splices)
  · apply bounded_pure
    refine ⟨?_, nofun⟩
    intro current same
    cases same
    exact ⟨rfl, splices⟩
  · apply bounded_then lane_takeActiveQuery
    apply bounded_then (lane_abortAndComplete context)
    exact lane_leaveClient

theorem lane_forwardUnplanned (context : QueryContext) :
    LaneReturns .ordinary context.number (forwardUnplanned config context) := by
  apply bounded_seq lane_ask
  intro codec
  apply bounded_choose (lane_beginActiveQuery context context.packetID)
  · exact lane_forwardOrdinary config codec context (.inl rfl)
  · exact lane_refuseAndLeave context _

theorem lane_abortWithSuccess : LaneReturns lane context.number (abortWithSuccess context) := by
  apply bounded_then (lane_onQueryAbort context)
  apply bounded_seq (lane_writeClient endOfStreamPacket)
  intro whole
  apply bounded_then lane_onQueryComplete
  split
  · exact bounded_pure (returns_endRejected context)
  · exact lane_leaveClient

end Ordinary

/-! ## Agent preparation -/

section Agent

theorem lane_cancelGeneration
    {number : Nat}
    (state : State)
    (preparation : Preparation) :
    LaneEffect .agent number state ((state.cancelGeneration preparation).record
        (.prepareCanceled number)) := by
  have own : LaneEvent .agent number state (.prepareCanceled number) := ⟨rfl, rfl⟩
  unfold cancelGeneration
  split
  · exact .record own
  · rename_i active held
    split
    · exact .event own (.cancel held) (fun _ => .inl rfl) fun _ => ⟨rfl, rfl⟩
    · exact .record own

theorem lane_agentCanceled :
    LaneReturns lane context.number (abortAndComplete context >>= fun _ => pure nextPacket) :=
  bounded_seq (lane_abortAndComplete context) fun _ => bounded_pure (returns_client none)

theorem lane_prepareFailed (context : QueryContext) (error : AgentError) :
    LaneReturns lane context.number (prepareFailed config context error) := by
  apply bounded_then lane_takeActiveQuery
  cases error with
  | canceled => exact lane_agentCanceled context
  | eof => exact lane_leaveClient
  | forwardUnknown | failed error =>
    exact bounded_seq (lane_refuse context _) fun _ => bounded_pure (returns_endRejected context)

theorem lane_refusePrepared (context : QueryContext) :
    LaneReturns lane context.number (refusePrepared config context) := by
  apply bounded_then lane_takeActiveQuery
  apply bounded_then (lane_refuseAfterHooks context _)
  exact lane_leaveClient

theorem resumedContext_number (stage : Stage) (plans : Plans) :
    (resumedContext context stage plans).number = context.number := by
  unfold resumedContext
  split <;> rfl

end Agent

end HouseGate.Relay
