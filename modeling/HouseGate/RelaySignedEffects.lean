import HouseGate.RelayLaneEffects

namespace HouseGate.Relay

open DecimalText EffectProgram State

/-!
# What the signed lanes may do

The deferred and the synthesized INSERT run through the same gates; the bound
of their lane follows the functions of the source one by one.
-/

variable {otherwise : Code (Option Point)}

section Signed

/-- A writer's operation on a gate; none of them changes its context. -/
theorem lane_modifyGate {number gate : Nat} {change : InputGate → InputGate}
    (context : ∀ input, (change input).context = input.context) :
    Within (LaneEffect .signed number) (modifyGate gate change) :=
  bounded_modify fun _ =>
    lane_gates _ (fun _ _ held => .inr held) _ _ (gateContexts_update (.inl (context _))) _

variable {number : Nat}
  (forward : SignedLane) (gate : Nat) (config : Config) (context : QueryContext)
  (prefetched : Option ClientRead)

theorem lane_finishWriter : Within (LaneEffect .signed number) (finishWriter gate) :=
  lane_modifyGate fun _ => rfl

theorem lane_abortGate : Within (LaneEffect .signed number) (abortGate gate) := by
  have own : ∀ state : State,
      LaneEvent .signed number state (.onQueryAbort (state.gate gate).context.number false) :=
    fun _ => .inr ⟨rfl, rfl, gate, rfl⟩
  apply bounded_modify
  intro state
  split
  · exact .refl
  · exact lane_gatesAndEvent (own state) _ _ (gateContexts_update (.inl rfl))

theorem lane_completeGate : Within (LaneEffect .signed number) (completeGate gate) := by
  have own : ∀ state, LaneEvent .signed number state .onQueryComplete := fun _ => trivial
  apply bounded_modify
  intro state
  split
  · exact .refl
  · exact lane_gatesAndEvent (own state) _ _ (gateContexts_update (.inl rfl))

theorem lane_claimWriterLifecycle :
    Within (LaneEffect .signed number) (claimWriterLifecycle gate) := by
  apply bounded_atomically
  intro state
  split
  · refine lane_gates _ (fun _ _ held => .inr held) _ _ (gateContexts_update ?_) _
    exact .inl rfl
  · exact .refl

variable (context : QueryContext)

theorem lane_armDeferredInput :
    Within (LaneEffect .signed context.number) (armDeferredInput context) := by
  have own : ∀ state, LaneEvent .signed context.number state (.armed state.gates context.number) :=
    fun _ => ⟨rfl, rfl⟩
  apply bounded_atomically
  intro state
  exact lane_gatesAndEvent (own state) _ _ (gateContexts_update (.inr rfl))

theorem lane_armDeferredSample :
    Within (LaneEffect .signed context.number) (armDeferredSample context) := by
  apply bounded_atomically
  intro state
  refine lane_gates _ ?_ _ _ (gateContexts_refl _ _) _
  intro gate query same
  cases same
  exact .inl rfl

theorem lane_disarmDeferredSample {number : Nat} :
    Within (LaneEffect .signed number) disarmDeferredSample := by
  apply bounded_modify
  intro state
  refine lane_gates _ ?_ _ _ (gateContexts_refl _ _) _
  intro gate query same
  cases same

theorem lane_clearSignedQueryWrite :
    Within (LaneEffect .signed number) (clearSignedQueryWrite context) := by
  apply bounded_modify
  intro state
  split
  · split
    · exact lane_gates _ (fun _ _ held => .inr held) _ _ (gateContexts_refl _ _) _
    · exact .refl
  · exact .refl

theorem lane_abortUnsentQuery :
    Within (LaneEffect .signed context.number) (abortUnsentQuery context) := by
  apply bounded_seq
  · apply bounded_modify
    intro state
    exact .record (.inl ⟨rfl, fun _ => rfl⟩)
  · intro _
    exact lane_onQueryComplete

variable (error : HookError)

theorem lane_rejectUnsent :
    Within (LaneEffect .signed context.number) (rejectUnsent context error) :=
  bounded_seq (lane_abortUnsentQuery context) fun _ => lane_writeException error

theorem lane_rejectClose : LaneReturns .signed context.number (rejectClose context error) :=
  bounded_seq (lane_rejectUnsent context error) fun _ => lane_leaveClient

theorem lane_rejectResume : LaneReturns .signed context.number (rejectResume context error) :=
  bounded_seq (lane_rejectUnsent context error) fun _ => bounded_pure (returns_client none)

theorem lane_abandonUnsent : LaneReturns .signed context.number (abandonUnsent context) :=
  bounded_seq (lane_abortUnsentQuery context) fun _ => lane_leaveClient

theorem lane_endForward : Within (LaneEffect .signed number) (endForward forward) :=
  bounded_seq (lane_clearSignedQueryWrite forward.context) fun _ => lane_finishWriter forward.gate

theorem lane_leaveForward : LaneReturns .signed number (leaveForward forward) :=
  bounded_seq (lane_endForward forward) fun _ => lane_leaveClient

theorem lane_resumeForward : LaneReturns .signed number (resumeForward forward prefetched) :=
  bounded_seq (lane_endForward forward) fun _ => bounded_pure (returns_client prefetched)

theorem lane_awaitDelivered : Within (LaneEffect .signed number) (awaitDelivered forward) :=
  bounded_ask fun _ => .refl

theorem lane_abortFromWriter : LaneReturns .signed number (abortFromWriter forward) := by
  apply bounded_then lane_disarmDeferredSample
  apply bounded_choose (lane_claimWriterLifecycle forward.gate)
  · refine bounded_then (lane_modifyGate fun _ => rfl) ?_
    apply bounded_then (lane_abortGate forward.gate)
    apply bounded_then (lane_finishWriter _)
    apply bounded_then lane_takeActiveQuery
    apply bounded_then (lane_completeGate forward.gate)
    refine bounded_then (lane_modifyGate fun _ => rfl) ?_
    exact lane_leaveForward forward
  · apply bounded_then (lane_finishWriter _)
    apply bounded_then (lane_awaitDelivered forward)
    exact lane_leaveForward forward

theorem lane_abortAfterTerminal : LaneReturns .signed number (abortAfterTerminal forward) := by
  apply bounded_then (lane_finishWriter _)
  apply bounded_then (lane_awaitDelivered forward)
  exact lane_leaveForward forward

theorem lane_writeFailed : LaneReturns .signed number (writeFailed forward) := by
  apply bounded_choose lane_ask
  · exact lane_abortAfterTerminal forward
  · exact lane_abortFromWriter forward

theorem lane_writeSigned (codec : Nat) (packet : UpstreamPacket) :
    Within (LaneEffect .signed number) (writeUpstream codec (some number) packet) :=
  bounded_write fun _ _ => .record (.inl ⟨rfl, nofun⟩)

theorem lane_beginCancel : Within (LaneEffect .signed number) (beginCancel gate) := by
  apply bounded_atomically
  intro state
  dsimp only
  split
  · exact .refl
  have canceled := @lane_cancelActive .signed number state
  refine { canceled with
      contexts := ?_
      gates := fun other => (other rfl).elim }
  intro other
  have kept := canceled.contexts other
  by_cases same : other = gate
  · subst same
    simpa [withGate] using kept
  · simpa [withGate, same] using kept

theorem lane_forwardCancel (raw : Bytes) :
    LaneReturns .signed forward.context.number (forwardCancel forward raw) := by
  unfold forwardCancel
  split
  · apply bounded_choose (lane_beginCancel forward.gate)
    · apply bounded_seq (lane_writeSigned _ _)
      intro whole
      refine bounded_then (lane_modifyGate fun _ => rfl) ?_
      apply bounded_then (lane_finishWriter _)
      split
      · exact bounded_pure ⟨rfl, rfl⟩
      · exact lane_abortFromWriter forward
    · apply bounded_then (lane_finishWriter _)
      exact bounded_pure ⟨rfl, rfl⟩
  · exact lane_abortFromWriter forward

theorem lane_strict
    {lane : Lane}
    (payload : List Bytes)
    (checks : lane = .signed ∨ lane = .ordinary) :
    Within (LaneEffect lane context.number) (onQueryInputCompleteStrict context payload) := by
  apply bounded_then (bounded_tell fun _ => .record ⟨rfl, checks⟩)
  apply bounded_answer
  intro input before
  cases input with
  | hook error => exact .record ⟨rfl, checks⟩
  | _ => trivial

theorem lane_forwardSignedInsert (forward : Nat → Nat → Nat → SignedLane)
    (own : ∀ codec gate sample, (forward codec gate sample).context = context) :
    LaneReturns .signed context.number (forwardSignedInsert config context forward) := by
  apply bounded_seq (lane_strict context _ (.inl rfl))
  intro refused
  cases refused with
  | some error =>
    dsimp only
    split
    · exact lane_rejectResume context _
    · exact lane_rejectClose context _
  | none =>
    apply bounded_seq lane_ask
    intro codec
    apply bounded_choose (lane_beginActiveQuery context context.query.id)
    · apply bounded_seq (lane_armDeferredInput context)
      intro gate
      apply bounded_seq (lane_armDeferredSample context)
      intro sample
      apply bounded_then (bounded_modify fun _ =>
        lane_gates _ (fun _ _ held => .inr held) _ _ (gateContexts_refl _ _) _)
      apply bounded_choose (lane_writeSigned codec _)
      · apply bounded_choose (lane_writeSigned codec _)
        · refine bounded_then (lane_modifyGate fun _ => rfl) ?_
          apply bounded_pure
          exact ⟨congrArg (·.number) (own codec gate sample), rfl⟩
        · exact lane_writeFailed _
      · exact lane_abortFromWriter _
    · exact lane_rejectClose context _

theorem lane_writeTerminator (forward : SignedLane) :
    LaneReturns .signed forward.context.number (writeTerminator forward) := by
  apply bounded_choose (lane_writeSigned _ _)
  · refine bounded_then (lane_modifyGate fun _ => rfl) ?_
    apply bounded_choose lane_ask
    · exact lane_abortAfterTerminal forward
    · apply bounded_then (bounded_tell fun _ => .record ⟨rfl, .inl rfl⟩)
      apply bounded_then (lane_finishWriter _)
      exact bounded_pure ⟨rfl, rfl⟩
  · exact lane_writeFailed forward

theorem lane_writePayload (payload : List Bytes) :
    LaneReturns .signed forward.context.number (writePayload forward payload) := by
  induction payload with
  | nil => exact lane_writeTerminator forward
  | cons raw rest inductionHypothesis =>
    apply bounded_choose lane_ask
    · exact lane_abortAfterTerminal forward
    apply bounded_choose (lane_writeSigned _ _)
    · apply bounded_choose lane_ask
      · exact lane_abortAfterTerminal forward
      · exact inductionHypothesis
    · exact lane_writeFailed forward

theorem lane_sampleSettled (forward : SignedLane) (result : SampleResult) :
    LaneReturns .signed forward.context.number (sampleSettled config forward result) := by
  unfold sampleSettled
  split
  · exact lane_abortAfterTerminal forward
  · apply bounded_then (lane_finishWriter _)
    apply bounded_choose (lane_awaitDelivered forward)
    · exact lane_resumeForward forward none
    · exact lane_leaveForward forward
  · split
    · exact lane_writePayload forward _
    split
    · exact lane_abortFromWriter forward
    · split
      · exact lane_writePayload forward _
      · apply bounded_then (lane_writeException _)
        exact lane_abortFromWriter forward

theorem lane_awaitSample (forward : SignedLane) :
    LaneReturns .signed forward.context.number (awaitSample config forward) := by
  apply bounded_seq lane_ask
  intro polled
  cases polled with
  | settled result => exact lane_sampleSettled config forward result
  | contextDone => exact lane_abortFromWriter forward
  | nothing =>
    apply bounded_seq lane_ask
    intro wait
    cases wait with
    | notReady => exact bounded_pure ⟨rfl, rfl⟩
    | eof | failed => exact lane_abortFromWriter forward
    | ready =>
      apply bounded_seq lane_ask
      intro read
      split
      · exact lane_forwardCancel forward _
      · exact lane_abortFromWriter forward

theorem lane_endDelivered : LaneReturns .signed number (endDelivered forward prefetched) := by
  apply bounded_choose lane_ask
  · exact lane_abortAfterTerminal forward
  · exact lane_resumeForward forward prefetched

theorem lane_awaitExposed : LaneReturns .signed number (awaitExposed forward prefetched) := by
  apply bounded_choose lane_ask
  · exact lane_abortAfterTerminal forward
  apply bounded_choose lane_ask
  · apply bounded_seq lane_ask
    intro ended
    cases ended with
    | terminal => exact lane_abortAfterTerminal forward
    | delivered => exact lane_endDelivered forward prefetched
    | contextDone | nothing => exact lane_leaveForward forward
  · apply bounded_then (lane_awaitDelivered forward)
    exact lane_leaveForward forward

theorem lane_awaitTerminalExposure (bounded : LaneReturns .signed number otherwise) :
    LaneReturns .signed number (awaitTerminalExposure forward prefetched otherwise) := by
  apply bounded_choose lane_ask
  · exact lane_awaitExposed forward prefetched
  apply bounded_choose lane_ask
  · apply bounded_choose lane_ask
    · exact lane_awaitExposed forward prefetched
    apply bounded_seq lane_ask
    intro ended
    cases ended with
    | terminal => exact lane_abortAfterTerminal forward
    | delivered => exact lane_awaitExposed forward prefetched
    | contextDone | nothing => exact lane_leaveForward forward
  · exact bounded

theorem lane_ifDelivered (bounded : LaneReturns .signed number otherwise) :
    LaneReturns .signed number (ifDelivered forward prefetched otherwise) := by
  apply bounded_choose lane_ask
  · exact lane_endDelivered forward prefetched
  · exact bounded

theorem lane_awaitTerminal (forward : SignedLane) :
    LaneReturns .signed forward.context.number (awaitTerminal forward) := by
  apply bounded_choose lane_ask
  · exact lane_abortAfterTerminal forward
  apply bounded_seq lane_ask
  intro polled
  cases polled with
  | terminal => exact lane_abortAfterTerminal forward
  | delivered => exact lane_endDelivered forward none
  | contextDone => exact lane_abortFromWriter forward
  | nothing =>
    apply bounded_seq lane_ask
    intro wait
    cases wait with
    | notReady => exact bounded_pure ⟨rfl, rfl⟩
    | eof | failed =>
      apply lane_awaitTerminalExposure
      apply lane_ifDelivered
      exact lane_abortFromWriter forward
    | ready =>
      apply bounded_seq lane_ask
      intro read
      apply lane_awaitTerminalExposure
      apply lane_ifDelivered
      split
      · exact lane_forwardCancel forward _
      · exact lane_abortFromWriter forward

theorem lane_cancelUnsent : LaneReturns .signed context.number (cancelUnsent context) := by
  apply bounded_then (lane_abortUnsentQuery context)
  exact lane_answerEndOfStream context

theorem lane_runDeferredInsert (limit : Nat) :
    LaneReturns .signed context.number (runDeferredInsert config context limit) := by
  unfold runDeferredInsert
  split
  · exact lane_rejectClose context _
  · apply bounded_choose (lane_writeClient _)
    · exact bounded_pure ⟨rfl, rfl⟩
    · exact lane_abandonUnsent context

theorem lane_onClientDataStrict
    {lane : Lane}
    (raw : Bytes)
    (checks : lane = .signed ∨ lane = .ordinary) :
    Within (LaneEffect lane context.number) (onClientDataStrict context raw) := by
  apply bounded_answer
  intro input before
  cases input with
  | hook error => exact .record ⟨rfl, checks⟩
  | _ => trivial

theorem lane_collectPayload
    (collected : Collected)
    (limit remaining : Nat)
    (raw : Bytes) :
    LaneReturns .signed context.number
      (collectPayload config context collected limit remaining raw) := by
  unfold collectPayload
  split
  · exact lane_rejectClose context _
  apply bounded_seq (lane_onClientDataStrict context raw (.inl rfl))
  intro refused
  cases refused with
  | some error => exact lane_rejectClose context _
  | none =>
    dsimp only
    split
    · exact lane_rejectClose context _
    · exact bounded_pure ⟨rfl, rfl⟩

theorem lane_collectData
    (collected : Collected)
    (limit remaining : Nat)
    (data : DataPacket) :
    LaneReturns .signed context.number
      (collectData config context collected limit remaining data) := by
  unfold collectData
  split
  · exact lane_abandonUnsent context
  split
  · exact lane_rejectClose context _
  split
  · split
    · exact bounded_pure ⟨rfl, rfl⟩
    · exact lane_forwardSignedInsert config context _ fun _ _ _ => rfl
  · exact lane_collectPayload config context collected limit remaining _

theorem lane_collect (limit : Nat) (collected : Collected) :
    LaneReturns .signed context.number (collect config context limit collected) := by
  apply bounded_seq lane_ask
  intro allowed
  apply bounded_seq lane_ask
  intro read
  split
  · exact lane_rejectClose context _
  · exact lane_abandonUnsent context
  · exact lane_abandonUnsent context
  · exact lane_abandonUnsent context
  · exact lane_collectData config context collected limit _ _
  · exact lane_cancelUnsent context
  · exact lane_rejectClose context _

theorem lane_encodeBlocks : Within (LaneEffect .signed context.number) (encodeBlocks context) := by
  apply bounded_answer
  intro input before
  split
  · exact .refl
  · exact .record ⟨rfl, rfl⟩
  · trivial

theorem lane_encodeAndForward (plan : SynthesizedInsert) (marker : Bytes) :
    LaneReturns .signed context.number (encodeAndForward config context plan marker) := by
  apply bounded_seq (lane_encodeBlocks context)
  intro encoded
  cases encoded with
  | none => exact lane_rejectClose context _
  | some packets =>
    apply bounded_seq lane_ask
    intro allowed
    split
    · exact lane_rejectResume context _
    · exact lane_forwardSignedInsert config context _ fun _ _ _ => rfl

theorem lane_runSynthesizedInsert (compressed : Bool) (plan : SynthesizedInsert) :
    LaneReturns .signed context.number (runSynthesizedInsert config context compressed plan) := by
  unfold runSynthesizedInsert
  split
  · exact lane_rejectClose context _
  split
  · exact lane_rejectClose context _
  apply bounded_seq lane_ask
  intro read
  split
  · exact lane_rejectClose context _
  · exact lane_abandonUnsent context
  · exact lane_abandonUnsent context
  · exact lane_abandonUnsent context
  · exact lane_abandonUnsent context
  · split
    · exact lane_abandonUnsent context
    split
    · exact lane_rejectClose context _
    · split
      · exact lane_encodeAndForward config context plan _
      · exact lane_rejectClose context _
  · exact lane_cancelUnsent context
  · exact lane_rejectClose context _

end Signed

end HouseGate.Relay
