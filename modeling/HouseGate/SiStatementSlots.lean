import HouseGate.SiStatementReservations

namespace HouseGate.SiStatement

open LaneSelector TaskPool LanePool Selector List Section Slot Nat Function

/-!
# In-flight slots

A slot that `pick` took is open until it is freed, once.  While it is open it
is known to a section or to the session's record.  The selectors count the open
slots.
-/

/-! ## Who refers to a slot -/

/-- One for a section that goes on to free the slot. -/
def Section.refersTo (slot : Nat) : Section → Nat
  | .reserveStatementID _ _ _ carried | .finish carried =>
    if carried = slot then 1 else 0
  | .nonce _ _ carried | .signStatement carried
  | .trackReserved carried =>
    if carried.slot = slot then 1 else 0
  | _ => 0

/-- One if the session's record refers to the slot. -/
def recordedSlot (session : Session) (slot : Nat) (shared : Shared) : Nat :=
  match shared.reserved session with
  | none => 0
  | some tracked =>
    if tracked.slot = slot then 1 else 0

def Slot.isOf (session : Session) (slot : Nat) (entry : Slot) : Bool :=
  entry.id = slot && entry.session = session

def openSlots (session : Session) (slot : Nat) (shared : Shared) : Nat :=
  shared.slots.countP (isOf session slot)

def slotCover (config : Config) (session : Session)
    (slot : Nat) : Cover (machine config) session where
  refers := refersTo slot
  kept := recordedSlot session slot
  opened := openSlots session slot

variable {slot : Nat}

theorem refersTo_plain {part : Section} (plain : part.isPlain = true) : part.refersTo slot = 0 := by
  cases part <;>
    simp [isPlain, isInner, refersTo] at plain ⊢

variable {session : Session} {shared : Shared}

theorem sum_refersTo_settleDropped :
    ((settleDropped (shared.reserved session)).map (refersTo slot)).sum =
      recordedSlot session slot shared := by
  unfold recordedSlot
  cases shared.reserved session with
  | none => rfl
  | some tracked =>
    cases resolved : tracked.resolved <;>
      simp [settleDropped, resolved, refersTo]

variable {after : Shared}

theorem recordedSlot_of_reserved_eq (same : after.reserved session = shared.reserved session) :
    recordedSlot session slot after = recordedSlot session slot shared := by
  unfold recordedSlot
  rw [same]

/-- The outcome of a reservation leaves its slot with the session. -/
theorem recordedSlot_resolve
    {tracked : ReservedSeq} (found : shared.reserved session = some tracked) :
    recordedSlot session slot (resolve session tracked shared) =
      recordedSlot session slot shared := by
  simp [recordedSlot, resolve, setReserved, found]

variable {entry : Slot}

@[simp] theorem slots_leaveSlot :
    (leaveSlot entry shared).slots = shared.slots.filter (·.id ≠ entry.id) := by
  unfold leaveSlot
  simp only
  split <;> rfl

theorem openSlots_leaveSlot_le :
    openSlots session slot (leaveSlot entry shared) ≤ openSlots session slot shared := by
  unfold openSlots
  rw [slots_leaveSlot]
  exact Sublist.countP_le filter_sublist

theorem openSlots_leaveSlot_self : openSlots session entry.id (leaveSlot entry shared) = 0 := by
  unfold openSlots
  rw [slots_leaveSlot, countP_eq_zero]
  intro other member
  have apart : other.id ≠ entry.id := by
    simpa using (mem_filter.mp member).2
  simp [isOf, apart]

theorem openSlots_of_slots_eq (same : after.slots = shared.slots) :
    openSlots session slot after = openSlots session slot shared := by
  unfold openSlots
  rw [same]

theorem openSlots_picked
    {fresh : Nat}
    {networkID : Network}
    {lane : Lane}
    (same : after.slots = ⟨fresh, session, networkID, lane⟩ :: shared.slots) :
    openSlots session slot after =
      openSlots session slot shared + if fresh = slot then 1 else 0 := by
  unfold openSlots
  rw [same, countP_cons]
  simp [isOf]

variable {outcome : Result}

/-- A slot is closed, or as many refer to it after a section as before. -/
def SlotCovered (session : Session) (slot : Nat) (shared : Shared) (first : Section)
    (outcome : Result) : Prop :=
  openSlots session slot outcome.shared = 0 ∨
    openSlots session slot outcome.shared + first.refersTo slot + recordedSlot session slot shared ≤
      openSlots session slot shared + (outcome.next.map (refersTo slot)).sum +
        recordedSlot session slot outcome.shared

variable {config : Config} {first : Section}

/-- A section that opens no slot hands the one it refers to on. -/
theorem slotCovered_of_handed (sameSlots : outcome.shared.slots = shared.slots)
    (sameRecord : recordedSlot session slot outcome.shared = recordedSlot session slot shared)
    (handed : first.refersTo slot ≤ (outcome.next.map (refersTo slot)).sum) :
    SlotCovered session slot shared first outcome := by
  right
  rw [openSlots_of_slots_eq sameSlots, sameRecord]
  omega

theorem slotCover_own (effect : Effect config session shared first outcome) :
    SlotCovered session slot shared first outcome := by
  have forgotten := @sum_refersTo_settleDropped slot session shared
  cases effect with
  | quiet plain inner frame =>
    apply slotCovered_of_handed frame.slots
    · exact recordedSlot_of_reserved_eq (congrFun frame.reserved session)
    · simp [refersTo_plain plain]
  | notReserved frame | released frame issuer | notReleased frame | laneGone frame retired
  | rotated frame =>
    apply slotCovered_of_handed frame.slots
    · exact recordedSlot_of_reserved_eq (congrFun frame.reserved session)
    · simp [refersTo]
  | reserved continued fresh sameSlot frame issuer =>
    subst sameSlot
    apply slotCovered_of_handed frame.slots
    · exact recordedSlot_of_reserved_eq (congrFun frame.reserved session)
    · rcases continued with rfl | rfl <;> simp [refersTo]
  | nonceFailed | signed | signFailed | burned =>
    exact slotCovered_of_handed rfl rfl (by simp [refersTo, releaseSections])
  | minted same => exact slotCovered_of_handed rfl rfl (by simp [refersTo, same.slot])
  | excepted tracked unresolved marked =>
    exact slotCovered_of_handed rfl (recordedSlot_resolve tracked) (Nat.zero_le _)
  | aborted tracked unresolved frame
  | sequenced tracked unresolved frame =>
    refine slotCovered_of_handed frame.slots ?_ (Nat.zero_le _)
    rw [recordedSlot_of_reserved_eq (congrFun frame.reserved session), recordedSlot_resolve tracked]
  | picked found frame =>
    right
    rename_i statement attempt lane selector after
    have same : recordedSlot session slot after = recordedSlot session slot shared :=
      recordedSlot_of_reserved_eq (congrFun frame.reserved session)
    simp only [same, openSlots_picked frame.slots, refersTo, map_cons, map_nil, sum_singleton]
    omega
  | tracked =>
    right
    rename_i reservation
    have recordedNow : recordedSlot session slot
        (setReserved session (some { reservation with resolved := false }) shared) =
          if reservation.slot = slot then 1 else 0 := by
      simp [recordedSlot, setReserved]
    have sameSlots : openSlots session slot
        (setReserved session (some { reservation with resolved := false }) shared) =
          openSlots session slot shared :=
      rfl
    simp only [refersTo, forgotten, recordedNow, sameSlots]
    omega
  | notOpen done =>
    rename_i carried
    by_cases here : carried = slot
    · subst here
      left
      apply countP_eq_zero.mpr
      intro entry member
      simp [isOf, done entry member]
    · exact slotCovered_of_handed rfl rfl (by simp [refersTo, here])
  | freed member same =>
    rename_i carried entry
    subst same
    by_cases here : entry.id = slot
    · subst here
      exact .inl openSlots_leaveSlot_self
    right
    have fewer := @openSlots_leaveSlot_le slot session shared entry
    have sameRecord :
        recordedSlot session slot (leaveSlot entry shared) = recordedSlot session slot shared :=
      recordedSlot_of_reserved_eq (congrFun reserved_leaveSlot session)
    simp only [refersTo, if_neg here, sameRecord]
    omega
  | droppedState ends frame =>
    right
    simp only [openSlots_of_slots_eq frame.slots, refersTo, forgotten]
    exact le_add_right _ _

/-- A section opens slots for its own session alone. -/
theorem Effect.slots_elsewhere
    {config : Config}
    {other : Session}
    {first : Section}
    (effect : Effect config session shared first outcome)
    (elsewhere : other ≠ session) :
    openSlots other slot outcome.shared ≤ openSlots other slot shared := by
  cases effect with
  | quiet plain inner frame => exact le_of_eq (openSlots_of_slots_eq frame.slots)
  | picked found frame =>
    apply le_of_eq
    unfold openSlots
    rw [frame.slots, countP_cons_of_neg]
    simp [isOf, Ne.symm elsewhere]
  | notReserved frame | released frame issuer | notReleased frame | laneGone frame retired
  | rotated frame | reserved continued fresh sameSlot frame issuer
  | aborted tracked unresolved frame | sequenced tracked unresolved frame
  | droppedState ends frame => exact le_of_eq (openSlots_of_slots_eq frame.slots)
  | nonceFailed | minted same | signed | signFailed | notOpen done
  | burned | tracked | excepted tracked unresolved marked => exact le_refl _
  | freed member same => exact openSlots_leaveSlot_le

theorem slotCover_kept
    (config : Config)
    (session : Session)
    (slot : Nat) :
    (slotCover config session slot).Kept where
  own := by
    intro place answer first shared outcome ran
    subst ran
    have effect : Effect config session shared first (perform config answer session shared first) :=
      perform_effect answer first
    exact (slotCover_own effect :)
  other := by
    intro place answer mover first shared outcome elsewhere ran
    subst ran
    have effect : Effect config mover shared first (perform config answer mover shared first) :=
      perform_effect answer first
    exact ⟨effect.slots_elsewhere (Ne.symm elsewhere),
      recordedSlot_of_reserved_eq (effect.elsewhere (Ne.symm elsewhere))⟩
  noRestart := by
    intro shared
    rfl

/-! ## Open, freed and counted slots -/

@[simp] theorem nextSlot_leaveSlot : (leaveSlot entry shared).nextSlot = shared.nextSlot := by
  unfold leaveSlot
  simp only
  split <;> rfl

section Change

/-- How a section changes the open slots. -/
inductive SlotChange
    (session : Session)
    (shared : Shared)
    (outcome : Result) : Prop where
  | kept (slots : outcome.shared.slots = shared.slots)
      (next : outcome.shared.nextSlot = shared.nextSlot)
      (inflight : ∀ networkID lane,
          inflightOf outcome.shared networkID lane = inflightOf shared networkID lane)
      (noneTaken : ∀ event ∈ outcome.events, event.taken = none)
      (noneFreed : ∀ event ∈ outcome.events, event.freedSlot = none)
  | taken {networkID : Network} {lane : Lane}
      (slots : outcome.shared.slots = ⟨shared.nextSlot, session, networkID, lane⟩ :: shared.slots)
      (next : outcome.shared.nextSlot = shared.nextSlot + 1)
      (inflight : ∀ network other, inflightOf outcome.shared network other =
          inflightOf shared network other +
            if networkID = network ∧ lane = other then 1 else 0)
      (event : outcome.events = [.picked session shared.nextSlot])
  | freed {entry : Slot}
      (member : entry ∈ shared.slots) (left : outcome.shared = leaveSlot entry shared)
      (event : outcome.events = [.freed entry.session entry.id])

theorem inflightOf_enter
    {networkID : Network}
    {lane : Lane}
    {selector : Selector}
    (found : shared.selectors networkID = some selector)
    (network : Network)
    (other : Lane) :
    inflightOf (setSelector networkID (selector.enter lane) shared) network other =
      inflightOf shared network other +
        if networkID = network ∧ lane = other then 1 else 0 := by
  by_cases here : network = networkID
  · subst here
    by_cases same : other = lane
    · subst same
      simp [inflightOf, setSelector, enter, found]
    · simp [inflightOf, setSelector, enter, found, update_of_ne same, Ne.symm same]
  · simp [inflightOf, setSelector, update_of_ne here, Ne.symm here]

theorem Effect.slotChange (effect : Effect config session shared first outcome) :
    SlotChange session shared outcome := by
  cases effect with
  | picked found frame =>
    refine .taken frame.slots frame.nextSlot ?_ rfl
    intro network other
    rw [frame.inflight]
    exact inflightOf_enter found network other
  | freed member same =>
    subst same
    exact .freed member rfl rfl
  | quiet plain inner frame | notReserved frame | aborted tracked unresolved frame =>
    exact .kept frame.slots frame.nextSlot frame.inflight (by simp) (by simp)
  | reserved continued fresh sameSlot frame issuer | released frame issuer | notReleased frame
  | laneGone frame retired | rotated frame | sequenced tracked unresolved frame
  | droppedState ends frame =>
    exact .kept frame.slots frame.nextSlot frame.inflight
      (by simp [Event.taken]) (by simp [Event.freedSlot])
  | nonceFailed | signFailed | tracked | burned =>
    exact .kept rfl rfl (fun _ _ => rfl) (by simp [Event.taken]) (by simp [Event.freedSlot])
  | minted | signed | notOpen | excepted => exact .kept rfl rfl (fun _ _ => rfl) (by simp) (by simp)

end Change

/-- A statement in flight on the lane of a network. -/
def Slot.isOn (networkID : Network) (lane : Lane) (entry : Slot) : Bool :=
  entry.networkID = networkID && entry.lane = lane

/-- Slots are numbered, open or freed, and counted by their selectors. -/
structure SlotsCounted (shared : Shared) (history : List Event) : Prop where
  unique : (shared.slots.map Slot.id).Nodup
  below : ∀ entry ∈ shared.slots, entry.id < shared.nextSlot
  taken : ∀ slot, tally (marks Event.taken slot) history =
      if slot < shared.nextSlot then 1 else 0
  closed : ∀ session slot, tally (marksIn Event.freedSlot session slot) history +
      openSlots session slot shared = tally (marksIn Event.taken session slot) history
  counted : ∀ networkID lane,
      inflightOf shared networkID lane = shared.slots.countP (isOn networkID lane)

/-- One slot less of those that its entry counts for. -/
theorem countP_leave
    {slots : List Slot}
    (count : Slot → Bool)
    (unique : (slots.map Slot.id).Nodup)
    (member : entry ∈ slots) :
    (slots.filter (·.id ≠ entry.id)).countP count + (if count entry then 1 else 0) =
      slots.countP count := by
  obtain ⟨older, newer, rfl⟩ := append_of_mem member
  rw [map_append, map_cons, nodup_middle, ← map_append, nodup_cons] at unique
  have apart : ∀ other ∈ older ++ newer, decide (other.id ≠ entry.id) = true := by
    intro other among
    rw [decide_eq_true_eq]
    intro equal
    exact unique.1 (equal ▸ mem_map_of_mem among)
  obtain ⟨olderApart, newerApart⟩ := forall_mem_append.mp apart
  rw [filter_append, filter_cons_of_neg (by simp), filter_eq_self.mpr olderApart,
    filter_eq_self.mpr newerApart, countP_append, countP_append, countP_cons]
  omega

theorem inflightOf_leaveSlot (networkID : Network) (lane : Lane) :
    inflightOf (leaveSlot entry shared) networkID lane = inflightOf shared networkID lane -
        if entry.isOn networkID lane then 1 else 0 := by
  unfold leaveSlot
  simp only
  cases found : shared.selectors entry.networkID with
  | none =>
    by_cases here : entry.networkID = networkID
    · subst here
      simp [inflightOf, found]
    · simp [inflightOf, isOn, here]
  | some selector =>
    by_cases here : networkID = entry.networkID
    · subst here
      by_cases same : lane = entry.lane
      · subst same
        simp [inflightOf, setSelector, leave, found, isOn]
      · simp [inflightOf, setSelector, leave, found, isOn, update_of_ne same, Ne.symm same]
    · simp [inflightOf, setSelector, update_of_ne here, isOn, Ne.symm here]

theorem SlotsCounted.step
    {history : List Event}
    (before : SlotsCounted shared history)
    (change : SlotChange session shared outcome) :
    SlotsCounted outcome.shared (outcome.events ++ history) := by
  cases change with
  | kept slots next inflight noneTaken noneFreed =>
    refine ⟨?_, ?_, ?_, ?_, ?_⟩
    · rw [slots]
      exact before.unique
    · rw [slots, next]
      exact before.below
    · intro slot
      rw [tally_append, next, before.taken slot, tally_marks_eq_zero]
      · exact zero_add _
      · intro event member
        simp [noneTaken event member]
    · intro owner slot
      have taken : tally (marksIn Event.taken owner slot) outcome.events = 0 := by
        apply tally_marksIn_eq_zero
        intro event member _
        simp [noneTaken event member]
      have freed : tally (marksIn Event.freedSlot owner slot) outcome.events = 0 := by
        apply tally_marksIn_eq_zero
        intro event member _
        simp [noneFreed event member]
      rw [openSlots_of_slots_eq slots, tally_append, tally_append, taken, freed, zero_add, zero_add]
      exact before.closed owner slot
    · intro networkID lane
      rw [inflight, slots]
      exact before.counted networkID lane
  | taken slots next inflight event =>
    have fresh : ∀ entry ∈ shared.slots, entry.id ≠ shared.nextSlot := by
      intro entry member
      exact Nat.ne_of_lt (before.below entry member)
    refine ⟨?_, ?_, ?_, ?_, ?_⟩
    · rw [slots, map_cons, nodup_cons]
      refine ⟨?_, before.unique⟩
      simpa using fresh
    · rw [slots, next]
      intro entry member
      rcases mem_cons.mp member with same | old
      · subst same
        exact lt_succ_self _
      · exact lt_succ_of_lt (before.below entry old)
    · intro slot
      rw [event, next]
      simp only [singleton_append, tally_cons, before.taken slot,
        marks, Event.taken, Option.some.injEq]
      split <;> split <;> split <;> omega
    · intro owner slot
      have old := before.closed owner slot
      rw [event]
      simp only [singleton_append, tally_cons, marksIn,
        Event.freedSlot, Event.taken, Event.session, Option.some.injEq,
        reduceCtorEq, false_and, if_false, zero_add] at old ⊢
      unfold openSlots at old ⊢
      rw [slots, countP_cons]
      simp only [isOf, Bool.and_eq_true, decide_eq_true_eq]
      omega
    · intro network other
      rw [inflight, slots, countP_cons, before.counted network other]
      simp [isOn]
  | freed member left event =>
    refine ⟨?_, ?_, ?_, ?_, ?_⟩
    · rw [left, slots_leaveSlot]
      exact before.unique.sublist (filter_sublist.map Slot.id)
    · rw [left, slots_leaveSlot, nextSlot_leaveSlot]
      intro other inside
      exact before.below other (mem_of_mem_filter inside)
    · intro slot
      rw [left, nextSlot_leaveSlot, event]
      simpa [marks, Event.taken] using before.taken slot
    · intro owner slot
      have old := before.closed owner slot
      have fewer := countP_leave (isOf owner slot) before.unique member
      rw [event, left]
      unfold openSlots at old ⊢
      rw [slots_leaveSlot]
      simp only [singleton_append, tally_cons, marksIn,
        Event.freedSlot, Event.taken, Event.session, Option.some.injEq,
        reduceCtorEq, false_and, if_false, zero_add, isOf,
        Bool.and_eq_true, decide_eq_true_eq] at old fewer ⊢
      omega
    · intro networkID lane
      have fewer := countP_leave (isOn networkID lane) before.unique member
      rw [left, inflightOf_leaveSlot, slots_leaveSlot, before.counted networkID lane]
      omega

end HouseGate.SiStatement
