import HouseGate.SiStatement

namespace HouseGate.SiStatement

open DecimalText LaneSelector LanePool Selector Section Function

/-!
# What one section can do

`Effect` lists every way in which a section touches reservations, in-flight
slots and counters.  What the source does besides is summed up by `Frame`.
-/

/-- The statements that a selector counts on a lane. -/
def inflightOf (shared : Shared) (networkID : Network) (lane : Lane) : Nat :=
  match shared.selectors networkID with
  | none => 0
  | some selector => selector.inflight lane

/-- Reservations, slots, lanes and counts are the same; counters are only opened. -/
structure Frame (shared after : Shared) : Prop where
  reserved : after.reserved = shared.reserved
  slots : after.slots = shared.slots
  nextReservation : after.nextReservation = shared.nextReservation
  nextSlot : after.nextSlot = shared.nextSlot
  retired : after.retired = shared.retired
  seqs :
    ∀ networkID counter, shared.seqs networkID = some counter → after.seqs networkID = some counter
  inflight : ∀ networkID lane, inflightOf after networkID lane = inflightOf shared networkID lane

theorem Frame.refl (shared : Shared) : Frame shared shared :=
  ⟨rfl, rfl, rfl, rfl, rfl, fun _ _ found => found, fun _ _ => rfl⟩

/-- The store that a lane stands for, once its counter is open. -/
def storeOf (config : Config) (shared : Shared) (networkID : Network) : SeqLane → Option Store
  | .client held => some (.client held.store)
  | .legacy =>
    if config.seq then some .seq else (shared.seqs networkID).map .counter

/-- A later section of a call that carries no reservation and no slot. -/
def Section.isInner : Section → Bool
  | .claim _ | .selectorFor _ | .pick _ _ | .retry _ _ _ _
  | .applyLaneRotation _ _ => true
  | _ => false

/-- A section that carries neither a reservation nor a slot. -/
def Section.isPlain : Section → Bool
  | .hook _ => true
  | part => part.isInner

/-- The way of an unspent seq back to its lane. -/
def releaseSections (reservation : ReservedSeq) (rest : List Section) : List Section :=
  .releaseSeq reservation :: .finish reservation.slot :: rest

/-- Another statement id leaves a reservation the same one. -/
structure SameSeq (first second : ReservedSeq) : Prop where
  id : second.id = first.id
  slot : second.slot = first.slot
  lane : second.lane = first.lane
  seq : second.seq = first.seq
  networkID : second.networkID = first.networkID

/-- What each kind of section may do. -/
inductive Effect (config : Config) (session : Session)
    (shared : Shared) : Section → Result → Prop where
  | quiet {part : Section} {next : List Section} {after : Shared} (plain : part.isPlain = true)
      (inner : ∀ later ∈ next, later.isInner = true) (frame : Frame shared after) :
      Effect config session shared part ⟨after, next, []⟩
  | picked {statement : PendingStatement}
      {attempt : Nat} {lane : SeqLane} {selector : Selector} {after : Shared}
      (found : shared.selectors statement.networkID = some selector)
      (frame : Frame { setSelector statement.networkID (selector.enter lane.lane) shared with
          slots := ⟨shared.nextSlot, session, statement.networkID, lane.lane⟩ :: shared.slots
          nextSlot := shared.nextSlot + 1 }
          after) :
      Effect config session shared (.pick statement attempt) ⟨after,
          [.reserveStatementID statement attempt lane shared.nextSlot],
          [.picked session shared.nextSlot]⟩
  | notReserved {statement : PendingStatement}
      {attempt slot : Nat} {lane : SeqLane} {failure : StoreError} {after : Shared}
      (frame : Frame shared after) :
      Effect config session shared (.reserveStatementID statement attempt lane slot)
        ⟨after, [.finish slot, .retry statement attempt lane failure], []⟩
  | reserved {statement : PendingStatement}
      {attempt slot : Nat} {lane : SeqLane} {reservation : ReservedSeq} {store : Store}
      {next : Section} {after : Shared}
      (continued :
        next = .signStatement reservation ∨ next = .nonce statement attempt reservation)
      (fresh : reservation.id = shared.nextReservation) (sameSlot : reservation.slot = slot)
      (frame : Frame { shared with
          nextReservation := shared.nextReservation + 1 }
          after)
      (issuer : storeOf config after reservation.networkID reservation.lane = some store) :
      Effect config session shared (.reserveStatementID statement attempt lane slot)
        ⟨after, [next], [.reserved session reservation.id store reservation.seq]⟩
  | nonceFailed {statement : PendingStatement} {attempt : Nat} {reservation : ReservedSeq} :
      Effect config session shared (.nonce statement attempt reservation) ⟨shared,
          releaseSections reservation [.retry statement attempt reservation.lane .other],
          [.nonceFailed session reservation.id]⟩
  | minted {statement : PendingStatement}
      {attempt : Nat} {reservation named : ReservedSeq} (same : SameSeq reservation named) :
      Effect config session shared (.nonce statement attempt reservation)
        ⟨shared, [.signStatement named], []⟩
  | signed {reservation : ReservedSeq} :
      Effect config session shared (.signStatement reservation)
        ⟨shared, [.trackReserved reservation], []⟩
  | signFailed {reservation : ReservedSeq} :
      Effect config session shared (.signStatement reservation)
        ⟨shared, releaseSections reservation [], [.signFailed session reservation.id]⟩
  | tracked {reservation : ReservedSeq} :
      Effect config session shared (.trackReserved reservation)
        ⟨setReserved session (some { reservation with resolved := false }) shared,
          settleDropped (shared.reserved session),
          [.tracked session reservation.id reservation.statementID]⟩
  | released {reservation : ReservedSeq}
      {store : Store} {after : Shared} (frame : Frame shared after)
      (issuer : storeOf config after reservation.networkID reservation.lane = some store) :
      Effect config session shared (.releaseSeq reservation) ⟨after, [],
          [.released session reservation.id store reservation.seq]⟩
  | notReleased {reservation : ReservedSeq} {failure : StoreError} {after : Shared}
      (frame : Frame shared after) :
      Effect config session shared (.releaseSeq reservation) ⟨after, [],
          [.burned session reservation.id, .releaseFailed session reservation.id failure]⟩
  | laneGone {reservation : ReservedSeq} {after : Shared} (frame : Frame shared after)
      (retired : isRetired reservation.lane shared = true) :
      Effect config session shared (.releaseSeq reservation) ⟨after, [],
          [.dropped session reservation.id, .releaseFailed session reservation.id .closed]⟩
  | rotated {reservation : ReservedSeq} {rotation : LaneRotation} {store : Nat} {after : Shared}
      (frame : Frame { shared with retired := update shared.retired store true } after) :
      Effect config session shared (.applyLaneRotation reservation rotation)
        ⟨after, [], [.abandoned session store]⟩
  | notOpen {slot : Nat} (done : ∀ entry ∈ shared.slots, entry.id ≠ slot) :
      Effect config session shared (.finish slot) ⟨shared, [], []⟩
  | freed {slot : Nat} {entry : Slot} (member : entry ∈ shared.slots) (same : entry.id = slot) :
      Effect config session shared (.finish slot)
        ⟨leaveSlot entry shared, [], [.freed entry.session slot]⟩
  | burned {reservation : Nat} :
      Effect config session shared (.burnSeq reservation)
        ⟨shared, [], [.burned session reservation]⟩
  | excepted {message : Bytes} {reservation : ReservedSeq} {rotation : LaneRotation}
      (tracked : shared.reserved session = some reservation)
      (unresolved : reservation.resolved = false) (marked : hasSeqUnspentSuffix message = true) :
      Effect config session shared (.hook (.onException message))
        ⟨resolve session reservation shared, releaseSections reservation
            [.applyLaneRotation reservation rotation],
          []⟩
  | aborted {reservation : ReservedSeq}
      {after : Shared} (tracked : shared.reserved session = some reservation)
      (unresolved : reservation.resolved = false)
      (frame : Frame (resolve session reservation shared) after) :
      Effect config session shared (.hook (.onQueryAbort reservation.statementID true))
        ⟨after, releaseSections reservation [], []⟩
  | sequenced {reservation : ReservedSeq}
      {after : Shared} (tracked : shared.reserved session = some reservation)
      (unresolved : reservation.resolved = false)
      (frame : Frame (resolve session reservation shared) after) :
      Effect config session shared (.hook (.onQuerySuccess reservation.statementID))
        ⟨after, [.finish reservation.slot], [.sequenced session reservation.id]⟩
  | droppedState {hook : Hook} {after : Shared} (ends : hook = .onQueryComplete ∨ hook = .onClose)
      (frame : Frame (setReserved session none shared) after) :
      Effect config session shared (.hook hook)
        ⟨after, settleDropped (shared.reserved session), [.cleared session]⟩

/-- A section that does nothing and has nothing left to do. -/
theorem Effect.still
    {config : Config}
    {session : Session}
    {shared : Shared}
    {part : Section}
    (plain : part.isPlain = true) : Effect config session shared part ⟨shared, [], []⟩ :=
  .quiet plain (by simp) (Frame.refl shared)

/-! ## Frames of the helpers -/

variable (session : Session)

theorem frame_setPending (statement : Option PendingStatement) (shared : Shared) :
    Frame shared (setPending session statement shared) :=
  { Frame.refl shared with }

variable {networkID : Network}

/-- A selector with the same counts in the place of another. -/
theorem frame_setSelector {selector : Selector} {shared : Shared}
    (same : ∀ lane, selector.inflight lane = inflightOf shared networkID lane) :
    Frame shared (setSelector networkID selector shared) := by
  refine { Frame.refl _ with inflight := ?_ }
  intro other lane
  by_cases here : other = networkID
  · subst here
    simp [inflightOf, setSelector, same]
  · simp [inflightOf, setSelector, update_of_ne here]

theorem frame_forgetQuery (queryID : Bytes) (shared : Shared) :
    Frame shared (forgetQuery session queryID shared) := by
  unfold forgetQuery
  simp only
  split <;> split <;>
    exact { Frame.refl shared with }

theorem frame_noteSuccess (queryID : Bytes) (shared : Shared) :
    Frame shared (noteSuccess session queryID shared) := by
  unfold noteSuccess
  simp only
  split <;> split <;> try split
  all_goals
    exact { Frame.refl shared with }

theorem Frame.resolve
    {shared after : Shared}
    (frame : Frame shared after)
    (session : Session)
    (reservation : ReservedSeq) :
    Frame (resolve session reservation shared) (resolve session reservation after) :=
  ⟨by simp [SiStatement.resolve, setReserved, frame.reserved],
    frame.slots, frame.nextReservation, frame.nextSlot, frame.retired, frame.seqs,
    frame.inflight⟩

/-- Counters are looked up or opened, never replaced. -/
theorem storeFor_spec
    {config : Config}
    {lane : SeqLane}
    {opened : Bool}
    {shared after : Shared}
    {store : Store}
    (found : storeFor config lane networkID opened shared = .ok (store, after)) :
    Frame shared after ∧ storeOf config after networkID lane = some store := by
  cases lane with
  | client held =>
    cases found
    exact ⟨Frame.refl shared, rfl⟩
  | legacy =>
    simp only [storeFor, seqFor] at found
    split at found
    · rename_i given
      cases found
      exact ⟨Frame.refl shared, by simp [storeOf, given]⟩
    rename_i notGiven
    split at found
    · cases found
    split at found
    · rename_i counter known
      cases found
      exact ⟨Frame.refl shared, by simp [storeOf, notGiven, known]⟩
    rename_i unknown
    split at found
    · cases found
      refine ⟨⟨rfl, rfl, rfl, rfl, rfl, ?_, fun _ _ => rfl⟩, ?_⟩
      · intro other counter known
        have elsewhere : other ≠ networkID := by
          intro here
          rw [here, unknown] at known
          cases known
        simp [update_of_ne elsewhere, known]
      · simp [storeOf, notGiven]
    · cases found

/-! ## The effect of each section -/

section Effects

variable {config : Config} {session} {shared : Shared} (queryID : Bytes)

theorem effect_onQuery (classified : Classified) :
    Effect config session shared (.hook (.onQuery queryID classified))
      (onQuery session queryID classified shared) := by
  have noted : ∀ statefulNext, Frame shared { shared with statefulNext := statefulNext } :=
    fun _ => { Frame.refl shared with }
  cases classified with
  | use db => exact .quiet rfl (by simp) { Frame.refl shared with }
  | passed stateful =>
    cases stateful with
    | false => exact .still rfl
    | true => exact .quiet rfl (by simp) (noted _)
  | claimed stateful statement =>
    cases stateful with
    | false => exact .quiet rfl (by simp [isInner]) (Frame.refl shared)
    | true => exact .quiet rfl (by simp [isInner]) (noted _)

variable (statement : PendingStatement)

theorem effect_claim :
    Effect config session shared (.claim statement) (claim session statement shared) := by
  unfold claim
  split
  · exact .still rfl
  · exact .quiet rfl (by simp) (frame_setPending session _ shared)

theorem effect_onClientDataStrict (queryID raw : Bytes) :
    Effect config session shared (.hook (.onClientDataStrict queryID raw))
      (onClientDataStrict config session queryID raw shared) := by
  unfold onClientDataStrict
  split
  · exact .still rfl
  split
  · exact .still rfl
  · split <;> exact .quiet rfl (by simp) (frame_setPending session _ shared)

theorem effect_onQueryInputCompleteStrict (synthesized : Option SynthesizedInsert) :
    Effect config session shared (.hook (.onQueryInputCompleteStrict queryID synthesized))
      (onQueryInputCompleteStrict config session queryID synthesized shared) := by
  unfold onQueryInputCompleteStrict
  split
  · exact .still rfl
  split
  · exact .still rfl
  · split
    · exact .quiet rfl (by simp) (frame_setPending session _ shared)
    · exact .quiet rfl (by simp) (frame_setPending session _ shared)
    · exact .quiet rfl (by simp [isInner]) (frame_setPending session _ shared)

theorem effect_selectorFor : Effect config session shared (.selectorFor statement)
    (selectorFor config statement shared) := by
  unfold selectorFor
  split
  · exact .still rfl
  split
  · exact .quiet rfl (by simp [isInner]) (Frame.refl shared)
  rename_i missing
  apply Effect.quiet rfl (by simp [isInner])
  apply frame_setSelector
  intro lane
  simp [inflightOf, missing, newLaneSelector]

variable (attempt : Nat)

theorem effect_retry (lane : SeqLane) (failure : StoreError) :
    Effect config session shared (.retry statement attempt lane failure)
      (retry statement attempt lane failure shared) := by
  unfold retry
  split
  · exact .quiet rfl (by simp [isInner]) (Frame.refl shared)
  · exact .still rfl

theorem effect_nonce (reservation : ReservedSeq) (answer : Answer) :
    Effect config session shared (.nonce statement attempt reservation)
      (nonce config session statement attempt reservation answer shared) := by
  unfold nonce
  split
  · exact .nonceFailed
  · exact .minted ⟨rfl, rfl, rfl, rfl, rfl⟩

variable (reservation : ReservedSeq)
  (answer : Answer)

theorem effect_signStatement :
    Effect config session shared (.signStatement reservation)
      (signStatement session reservation answer shared) := by
  unfold signStatement
  split
  · exact .signed
  · exact .signFailed

theorem effect_reserveStatementID
    (lane : SeqLane)
    (slot : Nat)
    (answer : Answer) :
    Effect config session shared (.reserveStatementID statement attempt lane slot)
      (reserveStatementID config session statement attempt lane slot answer shared) := by
  unfold reserveStatementID
  split
  · exact .notReserved (Frame.refl shared)
  split
  · exact .notReserved (Frame.refl shared)
  rename_i store after found
  obtain ⟨frame, issuer⟩ := storeFor_spec found
  have counted : Frame { shared with
      nextReservation := shared.nextReservation + 1 } { after with
          nextReservation := after.nextReservation + 1 } :=
    ⟨frame.reserved, frame.slots, by simp [frame.nextReservation],
      frame.nextSlot, frame.retired, frame.seqs, frame.inflight⟩
  split
  · split
    · exact .notReserved frame
    · exact .reserved (.inl rfl) frame.nextReservation rfl counted issuer
  · split
    · exact .notReserved frame
    · exact .reserved (.inr rfl) frame.nextReservation rfl counted issuer

omit queryID statement attempt reservation answer in
theorem isRetired_of_frame
    {lane : SeqLane}
    {after : Shared}
    (frame : Frame shared after)
    (retired : isRetired lane after = true) : isRetired lane shared = true := by
  cases lane with
  | client held =>
    simpa only [isRetired, frame.retired] using retired
  | legacy =>
    cases retired

theorem effect_releaseSeq : Effect config session shared (.releaseSeq reservation)
    (releaseSeq config session reservation answer shared) := by
  unfold releaseSeq
  simp only
  split
  · split
    · rename_i gone
      rw [gone.2]
      exact .laneGone (Frame.refl shared) gone.1
    · exact .notReleased (Frame.refl shared)
  rename_i store after found
  obtain ⟨frame, issuer⟩ := storeFor_spec found
  split
  · split
    · rename_i gone
      rw [gone.2]
      exact .laneGone frame (isRetired_of_frame frame gone.1)
    · exact .notReleased frame
  · exact .released frame issuer

theorem effect_finish (slot : Nat) :
    Effect config session shared (.finish slot) (finish slot shared) := by
  unfold finish
  split
  · rename_i missing
    apply Effect.notOpen
    simpa using missing
  rename_i entry found
  have member := List.mem_of_find?_eq_some found
  have same : entry.id = slot := by
    simpa using List.find?_some found
  exact .freed member same

theorem effect_pick :
    Effect config session shared (.pick statement attempt)
      (pick session statement attempt answer shared) := by
  unfold pick
  split
  · exact .still rfl
  rename_i selector found
  simp only
  generalize ran : selector.pick statement.lanesEnabled
      (answer.acquired.map fun lane => ⟨shared.nextStore, lane⟩)
      answer.ended = result
  obtain ⟨after, round⟩ := result
  obtain ⟨current, -, ⟨notPicked, same⟩ | ⟨lane, rfl, -, -, rfl, -⟩⟩ := pick_spec ran
  swap
  · apply Effect.picked found
    refine { Frame.refl _ with inflight := ?_ }
    intro networkID other
    by_cases here : networkID = statement.networkID
    · subst here
      simp [inflightOf, setSelector, enter]
    · simp [inflightOf, setSelector, update_of_ne here]
  · have counts : Frame shared (setSelector statement.networkID after shared) := by
      apply frame_setSelector
      intro lane
      simp [inflightOf, same, found]
    have frame : Frame shared { setSelector statement.networkID after shared with
        nextStore := shared.nextStore + 1 } := { counts with }
    cases round with
    | picked lane => exact absurd rfl (notPicked lane)
    | refused failure => exact .quiet rfl (by simp) frame
    | waits => exact .quiet rfl (by simp [isInner]) frame

theorem effect_onException (message : Bytes) :
    Effect config session shared (.hook (.onException message))
      (onException session message shared) := by
  unfold onException
  split
  · exact .still rfl
  rename_i reservation tracked
  simp only
  split
  · exact .still rfl
  · split
    · rename_i release
      exact .excepted tracked (by simpa using release.2) release.1
    · exact .quiet rfl (by simp [isInner]) (Frame.refl shared)

theorem effect_applyLaneRotation (rotation : LaneRotation) : Effect config session shared
    (.applyLaneRotation reservation rotation)
    (applyLaneRotation session reservation rotation shared) := by
  unfold applyLaneRotation
  simp only
  split
  · exact .still rfl
  rename_i selector found
  split
  · exact .still rfl
  have counts : ∀ lane, inflightOf shared reservation.networkID lane = selector.inflight lane := by
    intro lane
    simp [inflightOf, found]
  split
  · have frame : Frame shared (setSelector reservation.networkID
        (selector.rotate reservation.lane.lane).1 shared) := by
      apply frame_setSelector
      intro lane
      rw [rotate_inflight, counts]
    split
    · exact .quiet rfl (by simp) frame
    · exact .rotated ⟨frame.reserved, frame.slots, frame.nextReservation,
          frame.nextSlot, rfl, frame.seqs, frame.inflight⟩
  · apply Effect.quiet rfl (by simp)
    apply frame_setSelector
    intro lane
    rw [counts]
    rfl
  · exact .still rfl
  · exact .still rfl

theorem effect_onQueryAbort (upstreamQueryUnsent : Bool) : Effect config session shared
    (.hook (.onQueryAbort queryID upstreamQueryUnsent))
    (onQueryAbort session queryID upstreamQueryUnsent shared) := by
  have frame := frame_forgetQuery session queryID shared
  unfold onQueryAbort
  simp only
  split
  · exact .quiet rfl (by simp) frame
  rename_i reservation tracked
  rw [frame.reserved] at tracked
  split
  · rename_i release
    obtain ⟨unsent, isOpen⟩ := release
    have open' : reservation.resolved = false ∧ reservation.statementID = queryID := by
      simpa [ReservedSeq.isOpenFor] using isOpen
    obtain ⟨unresolved, same⟩ := open'
    subst unsent same
    exact .aborted tracked unresolved (frame.resolve session reservation)
  · exact .quiet rfl (by simp) frame

theorem effect_onQuerySuccess : Effect config session shared (.hook (.onQuerySuccess queryID))
    (onQuerySuccess session queryID shared) := by
  have frame := frame_noteSuccess session queryID shared
  unfold onQuerySuccess
  simp only
  split
  · exact .quiet rfl (by simp) frame
  rename_i reservation tracked
  rw [frame.reserved] at tracked
  split
  · rename_i isOpen
    simp only [ReservedSeq.isOpenFor, Bool.and_eq_true,
      Bool.not_eq_true', decide_eq_true_eq] at isOpen
    obtain ⟨unresolved, same⟩ := isOpen
    subst same
    exact .sequenced tracked unresolved (frame.resolve session reservation)
  · exact .quiet rfl (by simp) frame

theorem effect_closePlugin :
    Effect config session shared (.hook .closePlugin) (closePlugin shared) := by
  apply Effect.quiet rfl (by simp)
  refine { Frame.refl _ with inflight := ?_ }
  intro networkID lane
  cases found : shared.selectors networkID with
  | none => simp [inflightOf, found]
  | some selector => simp [inflightOf, found, close]

/-- Every section has one of the effects. -/
theorem perform_effect (part : Section) :
    Effect config session shared part (perform config answer session shared part) := by
  cases part with
  | hook hook =>
    cases hook with
    | onQuery queryID classified => exact effect_onQuery queryID classified
    | onClientDataStrict queryID raw => exact effect_onClientDataStrict queryID raw
    | onQueryInputCompleteStrict queryID synthesized =>
      exact effect_onQueryInputCompleteStrict queryID synthesized
    | onException message => exact effect_onException message
    | onQueryAbort queryID upstreamQueryUnsent =>
      exact effect_onQueryAbort queryID upstreamQueryUnsent
    | onQuerySuccess queryID => exact effect_onQuerySuccess queryID
    | onQueryComplete =>
      exact .droppedState (.inl rfl) { Frame.refl (setReserved session none shared) with }
    | onClose =>
      exact .droppedState (.inr rfl) { Frame.refl (setReserved session none shared) with }
    | closePlugin => exact effect_closePlugin
  | claim statement => exact effect_claim statement
  | selectorFor statement => exact effect_selectorFor statement
  | pick statement attempt => exact effect_pick statement attempt answer
  | reserveStatementID statement attempt lane slot =>
    exact effect_reserveStatementID statement attempt lane slot answer
  | nonce statement attempt reservation => exact effect_nonce statement attempt reservation answer
  | retry statement attempt lane failure => exact effect_retry statement attempt lane failure
  | signStatement reservation => exact effect_signStatement reservation answer
  | trackReserved reservation => exact .tracked
  | releaseSeq reservation => exact effect_releaseSeq reservation answer
  | finish slot => exact effect_finish slot
  | burnSeq reservation => exact .burned
  | applyLaneRotation reservation rotation => exact effect_applyLaneRotation reservation rotation

end Effects

end HouseGate.SiStatement
