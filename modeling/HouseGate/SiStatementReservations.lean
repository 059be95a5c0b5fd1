import HouseGate.SiStatementSteps

namespace HouseGate.SiStatement

open TaskPool LanePool Section

/-!
# Reservations are conserved

Over every run of the plugin's hooks a reserved seq is carried by one section,
or recorded for its session, or resolved, and only one of the three.
-/

/-! ## What events say -/

/-- The session whose call left an event; for a slot the one that took it. -/
def Event.session : Event → Session
  | .called session _ | .entered session _ | .picked session _ | .reserved session _ _ _
  | .nonceFailed session _ | .signFailed session _
  | .tracked session _ _ | .cleared session | .abandoned session _
  | .released session _ _ _ | .releaseFailed session _ _
  | .dropped session _ | .sequenced session _ | .burned session _
  | .freed session _ => session

/-- The reservation that an event issues. -/
def Event.issued : Event → Option Nat
  | .reserved _ reservation _ _ => some reservation
  | _ => none

/-- The reservation that an event resolves. -/
def Event.resolved : Event → Option Nat
  | .released _ reservation _ _ | .dropped _ reservation
  | .sequenced _ reservation | .burned _ reservation => some reservation
  | _ => none

/-- The in-flight slot that an event takes. -/
def Event.taken : Event → Option Nat
  | .picked _ slot => some slot
  | _ => none

/-- The in-flight slot that an event frees. -/
def Event.freedSlot : Event → Option Nat
  | .freed _ slot => some slot
  | _ => none

/-- One for an event with this mark. -/
def marks (mark : Event → Option Nat) (number : Nat) (event : Event) : Nat :=
  if mark event = some number then 1 else 0

/-- One for an event with this mark in this session. -/
def marksIn (mark : Event → Option Nat) (session : Session) (number : Nat) (event : Event) : Nat :=
  if mark event = some number ∧ event.session = session then 1 else 0

variable {event : Event}

section Marks

variable {mark opening closing : Event → Option Nat} {number : Nat} {session : Session}
  {history : List Event}

theorem tally_marksIn_le :
    tally (marksIn mark session number) history ≤ tally (marks mark number) history := by
  apply tally_le
  intro event _
  unfold marksIn marks
  split
  · rename_i both
    simp [both.1]
  · exact Nat.zero_le _

theorem tally_marks_eq_zero (unmarked : ∀ event ∈ history, mark event ≠ some number) :
    tally (marks mark number) history = 0 :=
  tally_eq_zero fun event member => if_neg (unmarked event member)

/-- The marks of one session are all there are. -/
theorem tally_marks_eq
    (alone : ∀ event ∈ history, mark event = some number → event.session = session) :
    tally (marks mark number) history = tally (marksIn mark session number) history := by
  refine congrArg List.sum (List.map_congr_left ?_)
  intro event member
  by_cases marked : mark event = some number
  · simp [marks, marksIn, alone event member marked]
  · simp [marks, marksIn, marked]

theorem one_le_tally_marks (member : event ∈ history) (marked : mark event = some number) :
    1 ≤ tally (marksIn mark event.session number) history := by
  have counted : marksIn mark event.session number event = 1 := if_pos ⟨marked, rfl⟩
  rw [← counted]
  exact List.le_sum_of_mem (List.mem_map_of_mem member)

theorem tally_opening_eq_one (once : tally (marks mark number) history ≤ 1)
    (member : event ∈ history) (marked : mark event = some number) :
    tally (marksIn mark event.session number) history = 1 :=
  le_antisymm (le_trans tally_marksIn_le once) (one_le_tally_marks member marked)

/-- Two sessions with the same mark are two marks. -/
theorem session_eq_of_tally_le_one
    {first second : Event} (once : tally (marks mark number) history ≤ 1)
    (firstMember : first ∈ history) (firstMarked : mark first = some number)
    (secondMember : second ∈ history) (secondMarked : mark second = some number) :
    first.session = second.session := by
  by_contra apart
  have one := one_le_tally_marks firstMember firstMarked
  have two := one_le_tally_marks secondMember secondMarked
  have both : tally (marksIn mark first.session number) history +
      tally (marksIn mark second.session number) history ≤ tally (marks mark number) history := by
    refine le_trans List.sum_map_add.ge ?_
    apply tally_le
    intro event _
    unfold marksIn marks
    grind
  omega

theorem exists_of_one_le_tally (counted : 1 ≤ tally (marksIn mark session number) history) :
    ∃ event ∈ history, mark event = some number ∧ event.session = session := by
  by_contra missing
  have zero : tally (marksIn mark session number) history = 0 :=
    tally_eq_zero fun event member => if_neg fun marked => missing ⟨event, member, marked⟩
  omega

variable (once : tally (marks opening number) history ≤ 1)
  (bounded : ∀ session, tally (marksIn closing session number) history ≤
      tally (marksIn opening session number) history)
include bounded

/-- Whatever a session closes it has opened. -/
theorem exists_opener (closes : event ∈ history) (marked : closing event = some number) :
    ∃ opener ∈ history, opening opener = some number ∧ opener.session = event.session :=
  exists_of_one_le_tally (le_trans (one_le_tally_marks closes marked) (bounded event.session))

include once

/-- What is opened once is closed in the session that opened it. -/
theorem tally_closing_eq
    {opener : Event}
    (member : opener ∈ history)
    (opened : opening opener = some number) :
    tally (marks closing number) history =
      tally (marksIn closing opener.session number) history := by
  apply tally_marks_eq
  intro event closes marked
  obtain ⟨other, otherMember, otherMarked, same⟩ := exists_opener bounded closes marked
  rw [← same]
  exact session_eq_of_tally_le_one once otherMember otherMarked member opened

theorem tally_closing_le_one : tally (marks closing number) history ≤ 1 := by
  by_cases opened : ∃ opener ∈ history, opening opener = some number
  · obtain ⟨opener, member, marked⟩ := opened
    calc
      tally (marks closing number) history
          = tally (marksIn closing opener.session number) history :=
            tally_closing_eq once bounded member marked
      _ ≤ tally (marksIn opening opener.session number) history := bounded opener.session
      _ ≤ tally (marks opening number) history := tally_marksIn_le
      _ ≤ 1 := once
  · rw [tally_marks_eq_zero]
    · exact Nat.zero_le 1
    · intro event closes marked
      obtain ⟨opener, member, opens, -⟩ := exists_opener bounded closes marked
      exact opened ⟨opener, member, opens⟩

end Marks

/-! ## Reservations -/

/-- One for a section that carries the reservation. -/
def Section.carries (reservation : Nat) : Section → Nat
  | .nonce _ _ carried | .signStatement carried
  | .trackReserved carried | .releaseSeq carried =>
    if carried.id = reservation then 1 else 0
  | .burnSeq carried =>
    if carried = reservation then 1 else 0
  | _ => 0

/-- One if the session records the reservation without an outcome. -/
def recorded (session : Session) (reservation : Nat) (shared : Shared) : Nat :=
  match shared.reserved session with
  | none => 0
  | some tracked =>
    if tracked.resolved = false ∧ tracked.id = reservation then 1 else 0

def reservationBalance (config : Config) (session : Session)
    (reservation : Nat) : Balance (machine config) session where
  holds := carries reservation
  kept := recorded session reservation
  settled := marksIn Event.resolved session reservation
  issued := marksIn Event.issued session reservation

variable {reservation : Nat} {shared : Shared}
  {part : Section}

theorem carries_plain (plain : part.isPlain = true) : part.carries reservation = 0 := by
  cases part <;>
    simp [isPlain, isInner, carries] at plain ⊢

theorem carries_inner (inner : part.isInner = true) : part.carries reservation = 0 := by
  cases part <;> simp [isInner, carries] at inner ⊢

theorem sum_carries_inner {next : List Section} (inner : ∀ later ∈ next, later.isInner = true) :
    (next.map (carries reservation)).sum = 0 := by
  apply List.sum_eq_zero
  intro weight member
  obtain ⟨later, inside, rfl⟩ := List.mem_map.mp member
  exact carries_inner (inner later inside)

variable {session : Session}

/-- What a session forgets is left to a section, unless it was resolved. -/
theorem sum_carries_settleDropped :
    ((settleDropped (shared.reserved session)).map (carries reservation)).sum =
      recorded session reservation shared := by
  unfold recorded
  cases shared.reserved session with
  | none => rfl
  | some tracked =>
    cases resolved : tracked.resolved <;>
      simp [settleDropped, resolved, carries]

theorem recorded_of_reserved_eq {shared after : Shared} (same : after.reserved = shared.reserved) :
    recorded session reservation after = recorded session reservation shared := by
  unfold recorded
  rw [same]

variable {tracked : ReservedSeq}

@[simp] theorem recorded_setReserved_some : recorded session reservation
    (setReserved session (some tracked) shared) =
      if tracked.resolved = false ∧ tracked.id = reservation then 1 else 0 := by
  simp [recorded, setReserved]

@[simp] theorem recorded_setReserved_none :
    recorded session reservation (setReserved session none shared) = 0 := by
  simp [recorded, setReserved]

@[simp] theorem recorded_resolve :
    recorded session reservation (resolve session tracked shared) = 0 := by
  simp [resolve]

@[simp] theorem reserved_leaveSlot {entry : Slot} :
    (leaveSlot entry shared).reserved = shared.reserved := by
  unfold leaveSlot
  simp only
  split <;> rfl

theorem recorded_of_unresolved
    (found : shared.reserved session = some tracked) (unresolved : tracked.resolved = false) :
    recorded session reservation shared =
      if tracked.id = reservation then 1 else 0 := by
  simp [recorded, found, unresolved]

variable {first : Section} {config : Config} {outcome : Result}
  (effect : Effect config session shared first outcome)

include effect

theorem reservationBalance_own :
    (outcome.next.map (carries reservation)).sum + recorded session reservation outcome.shared +
        tally (marksIn Event.resolved session reservation) outcome.events =
      first.carries reservation + recorded session reservation shared +
        tally (marksIn Event.issued session reservation)
          outcome.events := by
  cases effect with
  | quiet plain inner frame =>
    simp [carries_plain plain, sum_carries_inner inner, recorded_of_reserved_eq frame.reserved]
  | picked found frame =>
    rename_i statement attempt lane selector after
    have same : recorded session reservation after = recorded session reservation shared :=
      recorded_of_reserved_eq frame.reserved
    simp [carries, marksIn, Event.resolved, Event.issued, same]
  | notReserved frame => simp [carries, recorded_of_reserved_eq frame.reserved]
  | reserved continued fresh sameSlot frame issuer =>
    rename_i statement attempt slot lane taken store next after
    have same : recorded session reservation after = recorded session reservation shared :=
      recorded_of_reserved_eq frame.reserved
    rcases continued with sign | mint
    · subst sign
      simp [carries, marksIn, Event.resolved, Event.issued, Event.session, same]
      omega
    · subst mint
      simp [carries, marksIn, Event.resolved, Event.issued, Event.session, same]
      omega
  | nonceFailed | signFailed =>
    simp [carries, releaseSections, marksIn, Event.resolved, Event.issued]
  | minted same => simp [carries, same.id]
  | signed | notOpen done => simp [carries]
  | tracked =>
    simp [sum_carries_settleDropped, marksIn, Event.resolved, Event.issued, carries]
    omega
  | released frame issuer | notReleased frame | laneGone frame retired =>
    simp [carries, marksIn, Event.resolved, Event.issued,
      Event.session, recorded_of_reserved_eq frame.reserved]
    omega
  | rotated frame =>
    rename_i source rotation store after
    have same : recorded session reservation after = recorded session reservation shared :=
      recorded_of_reserved_eq frame.reserved
    simp [carries, marksIn, Event.resolved, Event.issued, same]
  | freed member same =>
    rename_i slot entry
    have kept : recorded session reservation (leaveSlot entry shared) =
        recorded session reservation shared :=
      recorded_of_reserved_eq reserved_leaveSlot
    simp [carries, marksIn, Event.resolved, Event.issued, kept]
  | burned =>
    simp [carries, marksIn, Event.resolved, Event.issued, Event.session]
    omega
  | excepted tracked unresolved marked =>
    simp [carries, releaseSections, recorded_of_unresolved tracked unresolved]
  | aborted tracked unresolved frame =>
    simp [carries, releaseSections, recorded_of_reserved_eq frame.reserved,
      recorded_of_unresolved tracked unresolved]
  | sequenced tracked unresolved frame =>
    simp [carries, marksIn, Event.resolved, Event.issued,
      Event.session, recorded_of_reserved_eq frame.reserved,
      recorded_of_unresolved tracked unresolved]
  | droppedState ends frame =>
    simp [sum_carries_settleDropped, carries, marksIn, Event.resolved, Event.issued,
      recorded_of_reserved_eq frame.reserved]

omit effect in
theorem reserved_setReserved_ne
    {other : Session}
    {tracked : Option ReservedSeq}
    (elsewhere : other ≠ session) :
    (setReserved session tracked shared).reserved other = shared.reserved other := by
  simp [setReserved, Function.update_of_ne elsewhere]

/-- A section leaves the records of other sessions alone. -/
theorem Effect.elsewhere
    {other : Session}
    (elsewhere : other ≠ session) :
    outcome.shared.reserved other = shared.reserved other := by
  cases effect with
  | quiet plain inner frame
  | notReserved frame | released frame issuer | notReleased frame | laneGone frame retired
  | rotated frame | reserved continued fresh sameSlot frame issuer => rw [frame.reserved]
  | picked found frame =>
    rw [frame.reserved]
    rfl
  | nonceFailed | minted same | signed | signFailed | notOpen done
  | burned => rfl
  | tracked => exact reserved_setReserved_ne elsewhere
  | freed member same => rw [reserved_leaveSlot]
  | excepted tracked unresolved marked => exact reserved_setReserved_ne elsewhere
  | aborted tracked unresolved frame | sequenced tracked unresolved frame
  | droppedState ends frame =>
    rw [frame.reserved]
    exact reserved_setReserved_ne elsewhere

/-- The events of a section are those of its session, but for the slots. -/
theorem Effect.session_of_mem (member : event ∈ outcome.events) :
    event.session = session ∨ ∃ owner slot, event = .freed owner slot := by
  cases effect with
  | quiet | notReserved | minted | signed | notOpen | excepted | aborted => cases member
  | notReleased | laneGone =>
    left
    simp only [List.mem_cons, List.not_mem_nil, or_false] at member
    rcases member with rfl | rfl <;> rfl
  | freed inside same => exact .inr ⟨_, _, List.mem_singleton.mp member⟩
  | picked | reserved | nonceFailed | signFailed | tracked | released
  | burned | sequenced | rotated | droppedState =>
    left
    rw [List.mem_singleton.mp member]
    rfl

omit effect

theorem tally_marksIn_eq_zero
    {mark : Event → Option Nat}
    {number : Nat}
    {events : List Event}
    (elsewhere : ∀ event ∈ events, event.session = session → mark event ≠ some number) :
    tally (marksIn mark session number) events = 0 := by
  apply tally_eq_zero
  intro event member
  exact if_neg fun both => elsewhere event member both.2 both.1

/-- Being entered is the only note that a section adds to its events. -/
theorem tally_exec
    {mark : Event → Option Nat}
    (unmarked : ∀ owner hook, mark (.entered owner hook) = none)
    (number : Nat)
    (mover : Session)
    (answer : Answer) :
    tally (marksIn mark session number) (exec config answer mover shared first).events =
      tally (marksIn mark session number) (perform config answer mover shared first).events := by
  cases first <;> simp [exec, Section.note, tally_append, marksIn, unmarked]

theorem reservationBalance_kept
    (config : Config)
    (session : Session)
    (reservation : Nat) :
    (reservationBalance config session reservation).Kept where
  starts := by
    intro caller hook
    exact ⟨rfl, by simp [reservationBalance, machine, marksIn,
      Event.resolved], by simp [reservationBalance, machine, marksIn,
      Event.issued]⟩
  own := by
    intro place answer first shared outcome ran
    subst ran
    have effect : Effect config session shared first (perform config answer session shared first) :=
      perform_effect answer first
    have resolvedUnmarked : ∀ owner hook, Event.resolved (.entered owner hook) = none :=
      fun _ _ => rfl
    have issuedUnmarked : ∀ owner hook, Event.issued (.entered owner hook) = none :=
      fun _ _ => rfl
    simp only [reservationBalance, machine, tally_exec resolvedUnmarked, tally_exec issuedUnmarked]
    exact (reservationBalance_own effect :)
  other := by
    intro place answer mover first shared outcome elsewhere ran
    subst ran
    have effect : Effect config mover shared first (perform config answer mover shared first) :=
      perform_effect answer first
    have unmarked : ∀ mark : Event → Option Nat, (∀ owner hook, mark (.entered owner hook) = none) →
        (∀ owner slot, mark (.freed owner slot) = none) →
        tally (marksIn mark session reservation)
          (exec config answer mover shared first).events = 0 := by
      intro mark enteredUnmarked freedUnmarked
      rw [tally_exec enteredUnmarked]
      apply tally_marksIn_eq_zero
      intro event member here
      rcases effect.session_of_mem member with there | ⟨owner, slot, freed⟩
      · exact absurd (there.symm.trans here) elsewhere
      · simp [freed, freedUnmarked]
    refine ⟨?_, unmarked Event.resolved (fun _ _ => rfl) (fun _ _ => rfl),
      unmarked Event.issued (fun _ _ => rfl) (fun _ _ => rfl)⟩
    have same := effect.elsewhere (Ne.symm elsewhere)
    simp [reservationBalance, recorded, machine, exec, same]
  noRestart := fun _ => rfl

end HouseGate.SiStatement
