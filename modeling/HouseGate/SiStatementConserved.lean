import HouseGate.SiStatementSlots

namespace HouseGate.SiStatement

open DecimalText LaneSelector TaskPool LanePool Event List Shared Function

/-!
# Why a reservation is released, sequenced or burned

Every resolution of a reservation has its grounds earlier in the history.  A
release goes to the store that issued the seq.  With the balance of
reservations and the cover of slots this gives `Conserved` for every run.
-/

/-! ## Grounds -/

/-- The reservation that a session records, with its statement. -/
def recordedIn (session : Session) : List Event → Option (Nat × Bytes)
  | [] => none
  | .tracked owner reservation statementID :: earlier =>
    if owner = session then some (reservation, statementID) else recordedIn session earlier
  | .cleared owner :: earlier =>
    if owner = session then none else recordedIn session earlier
  | _ :: earlier => recordedIn session earlier

/-- A hook was entered while the session recorded the reservation. -/
def Reported
    (session : Session)
    (hook : Hook)
    (reservation : Nat)
    (statementID : Bytes)
    (history : List Event) :
    Prop :=
  ∃ later earlier, history = later ++ .entered session hook :: earlier ∧
    recordedIn session earlier = some (reservation, statementID)

/-- No bytes of the statement can have been sequenced. -/
inductive Unspent
    (session : Session)
    (reservation : Nat)
    (history : List Event) : Prop where
  | exception {statementID message : Bytes}
      (reported : Reported session (.onException message) reservation statementID history)
      (marked : hasSeqUnspentSuffix message = true)
  | abort {statementID : Bytes}
      (reported :
        Reported session (.onQueryAbort statementID true) reservation statementID history)
  | nonceFailed (failed : nonceFailed session reservation ∈ history)
  | signFailed (failed : signFailed session reservation ∈ history)

/-- The session gave the reservation up before it had an outcome. -/
inductive Forgotten
    (session : Session)
    (reservation : Nat)
    (history : List Event) : Prop where
  | ended {statementID : Bytes} {later earlier : List Event}
      (split : history = later ++ .cleared session :: earlier)
      (recorded : recordedIn session earlier = some (reservation, statementID))
  | replaced {statementID otherID : Bytes} {other : Nat} {later earlier : List Event}
      (split : history = later ++ .tracked session other otherID :: earlier)
      (recorded : recordedIn session earlier = some (reservation, statementID))

/-- The lane of a reservation was abandoned, and its store refused the seq as closed. -/
structure LaneGone
    (session : Session)
    (reservation : Nat)
    (history : List Event) : Prop where
  refused : releaseFailed session reservation .closed ∈ history
  abandoned : ∃ store seq owner,
    reserved session reservation (.client store) seq ∈ history ∧
      Event.abandoned owner store ∈ history

/-- What an event needs to have happened before. -/
def Grounded (earlier : List Event) : Event → Prop
  | .nonceFailed session reservation | .signFailed session reservation
  | .tracked session reservation _ =>
    ∃ store seq, reserved session reservation store seq ∈ earlier
  | .released session reservation store seq =>
    reserved session reservation store seq ∈ earlier ∧ Unspent session reservation earlier
  | .dropped session reservation =>
    Unspent session reservation earlier ∧ LaneGone session reservation earlier
  | .sequenced session reservation =>
    ∃ statementID,
      Reported session (.onQuerySuccess statementID) reservation statementID earlier
  | .burned session reservation =>
    (Unspent session reservation earlier ∧
      ∃ failure, releaseFailed session reservation failure ∈ earlier) ∨
      Forgotten session reservation earlier
  | _ => True

/-- Each event of a history has its grounds before it. -/
def Justified : List Event → Prop
  | [] => True
  | event :: earlier => Grounded earlier event ∧ Justified earlier

variable {session : Session} {history : List Event} {config : Config} {shared : Shared}

/-- Events that neither track nor clear leave what a session records alone. -/
theorem recordedIn_append
    {events : List Event}
    (neitherTracked : ∀ reservation statementID, tracked session reservation statementID ∉ events)
    (neitherCleared : cleared session ∉ events) :
    recordedIn session (events ++ history) = recordedIn session history := by
  induction events with
  | nil =>
    rfl
  | cons event rest inductionHypothesis =>
    have same : recordedIn session (rest ++ history) = recordedIn session history := by
      apply inductionHypothesis
      · intro reservation statementID member
        exact neitherTracked reservation statementID (mem_cons_of_mem event member)
      · intro member
        exact neitherCleared (mem_cons_of_mem event member)
    cases event with
    | tracked owner reservation statementID =>
      have elsewhere : owner ≠ session := by
        rintro rfl
        exact neitherTracked reservation statementID mem_cons_self
      simp only [cons_append, recordedIn, if_neg elsewhere]
      exact same
    | cleared owner =>
      have elsewhere : owner ≠ session := by
        rintro rfl
        exact neitherCleared mem_cons_self
      simp only [cons_append, recordedIn, if_neg elsewhere]
      exact same
    | _ =>
      exact same

theorem Reported.extend
    {hook : Hook}
    {reservation : Nat}
    {statementID : Bytes}
    (reported : Reported session hook reservation statementID history)
    (events : List Event) :
    Reported session hook reservation statementID (events ++ history) := by
  obtain ⟨later, earlier, rfl, recorded⟩ := reported
  exact ⟨events ++ later, earlier, (append_assoc ..).symm, recorded⟩

theorem Unspent.extend
    {reservation : Nat}
    (unspent : Unspent session reservation history)
    (events : List Event) :
    Unspent session reservation (events ++ history) := by
  cases unspent with
  | exception reported marked =>
    exact .exception (reported.extend events) marked
  | abort reported =>
    exact .abort (reported.extend events)
  | nonceFailed failed =>
    exact .nonceFailed (mem_append_right events failed)
  | signFailed failed =>
    exact .signFailed (mem_append_right events failed)

theorem Forgotten.extend
    {reservation : Nat}
    (forgotten : Forgotten session reservation history)
    (events : List Event) :
    Forgotten session reservation (events ++ history) := by
  cases forgotten with
  | ended split recorded =>
    subst split
    exact .ended (append_assoc ..).symm recorded
  | replaced split recorded =>
    subst split
    exact .replaced (append_assoc ..).symm recorded

/-! ## Issuers -/

/-- The reservation was issued by the store that its lane stands for. -/
def Backed (config : Config) (session : Session) (reservation : ReservedSeq) (shared : Shared)
    (history : List Event) : Prop :=
  ∃ store, reserved session reservation.id store reservation.seq ∈ history ∧
      storeOf config shared reservation.networkID reservation.lane = some store

/-- Counters that are open stay open. -/
def KeepsCounters (shared after : Shared) : Prop :=
  ∀ networkID counter, shared.seqs networkID = some counter → after.seqs networkID = some counter

variable {after : Shared}

theorem storeOf_keepsCounters
    {networkID : Network}
    {lane : SeqLane}
    {store : Store}
    (keeps : KeepsCounters shared after)
    (found : storeOf config shared networkID lane = some store) :
    storeOf config after networkID lane = some store := by
  cases lane with
  | client held => exact found
  | legacy =>
    simp only [storeOf] at found ⊢
    split at found
    · rename_i given
      rw [if_pos given]
      exact found
    rename_i notGiven
    rw [if_neg notGiven]
    obtain ⟨counter, known, same⟩ := Option.map_eq_some_iff.mp found
    rw [keeps networkID counter known, ← same]
    rfl

@[simp] theorem retired_leaveSlot {entry : Slot} :
    (leaveSlot entry shared).retired = shared.retired := by
  unfold leaveSlot
  simp only
  split <;> rfl

@[simp] theorem seqs_leaveSlot {entry : Slot} : (leaveSlot entry shared).seqs = shared.seqs := by
  unfold leaveSlot
  simp only
  split <;> rfl

theorem Effect.keepsCounters
    {first : Section}
    {outcome : Result}
    (effect : Effect config session shared first outcome) :
    KeepsCounters shared outcome.shared := by
  cases effect with
  | quiet plain inner frame => exact frame.seqs
  | picked found frame | notReserved frame | released frame issuer
  | notReleased frame | laneGone frame retired | rotated frame | droppedState ends frame
  | reserved continued fresh sameSlot frame issuer
  | aborted tracked unresolved frame | sequenced tracked unresolved frame => exact frame.seqs
  | nonceFailed | minted same | signed | signFailed | notOpen done
  | burned | tracked | excepted tracked unresolved marked => exact fun _ _ known => known
  | freed member same =>
    intro networkID counter known
    rw [seqs_leaveSlot]
    exact known

variable {reservation : ReservedSeq}

theorem Backed.extend (backed : Backed config session reservation shared history)
    (keeps : KeepsCounters shared after) (events : List Event) :
    Backed config session reservation after (events ++ history) := by
  obtain ⟨store, issued, found⟩ := backed
  exact ⟨store, mem_append_right events issued, storeOf_keepsCounters keeps found⟩

theorem Backed.sameSeq
    {named : ReservedSeq} (backed : Backed config session reservation shared history)
    (same : SameSeq reservation named) :
    Backed config session named shared history := by
  obtain ⟨store, issued, found⟩ := backed
  refine ⟨store, ?_, ?_⟩
  · rw [same.id, same.seq]
    exact issued
  · rw [same.networkID, same.lane]
    exact found

/-! ## Assertions -/

/-- A reservation that a session records was issued and is being tracked. -/
structure Known
    (config : Config)
    (session : Session)
    (reservation : ReservedSeq)
    (shared : Shared)
    (history : List Event) : Prop where
  backed : Backed config session reservation shared history
  recorded : recordedIn session history = some (reservation.id, reservation.statementID)

/-- What holds while a section of a session waits to run. -/
def Asserted (config : Config) (session : Session) (shared : Shared)
    (history : List Event) : Section → Prop
  | .nonce _ _ reservation | .signStatement reservation
  | .trackReserved reservation => Backed config session reservation shared history
  | .releaseSeq reservation =>
    Backed config session reservation shared history ∧ Unspent session reservation.id history
  | .burnSeq reservation => Forgotten session reservation history
  | _ => True

variable {waiting : Section}

theorem Asserted.extend (asserted : Asserted config session shared history waiting)
    (keeps : KeepsCounters shared after) (events : List Event) :
    Asserted config session after (events ++ history) waiting := by
  cases waiting with
  | nonce statement attempt reservation | signStatement reservation | trackReserved reservation =>
    exact Backed.extend asserted keeps events
  | releaseSeq reservation =>
    exact ⟨Backed.extend asserted.1 keeps events, asserted.2.extend events⟩
  | burnSeq reservation => exact Forgotten.extend asserted events
  | hook | claim | selectorFor | pick | reserveStatementID | retry | finish
  | applyLaneRotation => trivial

theorem asserted_inner (inner : waiting.isInner = true) :
    Asserted config session shared history waiting := by
  cases waiting <;> simp [Section.isInner] at inner <;> trivial

variable {later : Section}

theorem asserted_settleDropped {dropped : Option ReservedSeq} (forgotten :
      ∀ reservation, dropped = some reservation → Forgotten session reservation.id history)
    (member : later ∈ settleDropped dropped) :
    Asserted config session shared history later := by
  cases dropped with
  | none => cases member
  | some reservation =>
    rcases mem_cons.mp member with finish | burn
    · subst finish
      trivial
    · split at burn
      · cases burn
      · rw [mem_singleton.mp burn]
        exact forgotten reservation rfl

theorem asserted_releaseSections
    {rest : List Section} (backed : Backed config session reservation shared history)
    (unspent : Unspent session reservation.id history)
    (inner : ∀ later ∈ rest, later.isInner = true)
    (member : later ∈ releaseSections reservation rest) :
    Asserted config session shared history later := by
  rcases mem_cons.mp member with release | member
  · subst release
    exact ⟨backed, unspent⟩
  · rcases mem_cons.mp member with finish | member
    · subst finish
      trivial
    · exact asserted_inner (inner later member)

section Steps

variable {first : Section} {outcome : Result}
  (effect : Effect config session shared first outcome)

include effect

/-- A section hands on what the sections it leads to rely on. -/
theorem Effect.asserted_next (known : ∀ reservation, shared.reserved session = some reservation →
    Known config session reservation shared history)
    (asserted : Asserted config session shared history first) (member : later ∈ outcome.next) :
    Asserted config session outcome.shared
      (outcome.events ++ first.note session history) later := by
  have keeps := effect.keepsCounters
  cases effect with
  | quiet plain inner frame => exact asserted_inner (inner later member)
  | picked found frame =>
    rw [mem_singleton.mp member]
    trivial
  | notReserved frame =>
    simp only [mem_cons, not_mem_nil, or_false] at member
    rcases member with finish | again
    · subst finish
      trivial
    · subst again
      trivial
  | reserved continued fresh sameSlot frame issuer =>
    rename_i statement attempt slot lane reservation store next after
    have backed : Backed config session reservation after
        (.reserved session reservation.id store reservation.seq :: history) :=
      ⟨store, mem_cons_self, issuer⟩
    rw [mem_singleton.mp member]
    rcases continued with sign | mint
    · subst sign
      exact backed
    · subst mint
      exact backed
  | nonceFailed =>
    exact asserted_releaseSections (Backed.extend asserted keeps _)
      (.nonceFailed mem_cons_self) (by simp [Section.isInner])
      member
  | minted same =>
    rw [mem_singleton.mp member]
    exact Backed.sameSeq asserted same
  | signed =>
    rw [mem_singleton.mp member]
    exact asserted
  | signFailed =>
    exact asserted_releaseSections (Backed.extend asserted keeps _)
      (.signFailed mem_cons_self) (by simp) member
  | tracked =>
    apply asserted_settleDropped _ member
    intro reservation found
    exact .replaced (nil_append _).symm (known reservation found).recorded
  | released frame issuer | notReleased frame | laneGone frame retired | rotated frame
  | notOpen done | freed inside same | burned => cases member
  | excepted tracked unresolved marked =>
    have record := known _ tracked
    exact asserted_releaseSections (record.backed.extend keeps [_])
      (.exception ⟨[], history, rfl, record.recorded⟩ marked)
      (by simp [Section.isInner]) member
  | aborted tracked unresolved frame =>
    have record := known _ tracked
    exact asserted_releaseSections (record.backed.extend keeps [_])
      (.abort ⟨[], history, rfl, record.recorded⟩) (by simp) member
  | sequenced tracked unresolved frame =>
    rw [mem_singleton.mp member]
    trivial
  | droppedState ends frame =>
    apply asserted_settleDropped _ member
    intro reservation found
    exact .ended (nil_append _).symm (known reservation found).recorded

omit effect in
theorem justified_note (justified : Justified history) :
    Justified (first.note session history) := by
  cases first with
  | hook hook => exact ⟨trivial, justified⟩
  | _ => exact justified

/-- The events of a section have their grounds. -/
theorem Effect.grounded (known : ∀ reservation, shared.reserved session = some reservation →
    Known config session reservation shared history)
    (retired : ∀ store, shared.retired store = true → ∃ owner, abandoned owner store ∈ history)
    (asserted : Asserted config session shared history first) (justified : Justified history) :
    Justified (outcome.events ++ first.note session history) := by
  have keeps := effect.keepsCounters
  have noted : Justified (first.note session history) := justified_note justified
  cases effect with
  | quiet | notReserved | minted | signed | notOpen | excepted | aborted => exact noted
  | picked | reserved | freed | rotated | droppedState => exact ⟨trivial, noted⟩
  | nonceFailed | signFailed | tracked =>
    obtain ⟨store, issued, -⟩ := asserted
    exact ⟨⟨store, _, issued⟩, justified⟩
  | released frame issuer =>
    obtain ⟨⟨store, issued, found⟩, unspent⟩ := asserted
    have same := storeOf_keepsCounters keeps found
    rw [issuer] at same
    cases same
    exact ⟨⟨issued, unspent⟩, justified⟩
  | notReleased frame =>
    exact ⟨.inl ⟨asserted.2.extend [_], _, mem_cons_self⟩, trivial, justified⟩
  | laneGone frame gone =>
    obtain ⟨⟨store, issued, found⟩, unspent⟩ := asserted
    rename_i reservation after
    cases lane : reservation.lane with
    | legacy =>
      rw [lane] at gone
      cases gone
    | client held =>
      rw [lane] at gone found
      cases found
      obtain ⟨owner, given⟩ := retired held.store gone
      refine ⟨⟨unspent.extend [_], mem_cons_self, held.store, reservation.seq, owner, ?_, ?_⟩,
        trivial, justified⟩
      · exact mem_cons_of_mem _ issued
      · exact mem_cons_of_mem _ given
  | burned => exact ⟨.inr asserted, justified⟩
  | sequenced tracked unresolved frame =>
    exact ⟨⟨_, [], history, rfl, (known _ tracked).recorded⟩, trivial, justified⟩

omit effect in
@[simp] theorem recordedIn_note
    {owner : Session} :
    recordedIn owner (first.note session history) = recordedIn owner history := by
  cases first <;> rfl

/-- What a section that neither tracks nor clears leaves recorded. -/
theorem Effect.known_old
    {owner : Session}
    (known : Known config owner reservation shared history)
    (neitherTracked :
      ∀ number statementID, Event.tracked owner number statementID ∉ outcome.events)
    (neitherCleared : Event.cleared owner ∉ outcome.events) :
    Known config owner reservation outcome.shared
      (outcome.events ++ first.note session history) where
  backed := by
    have noted : Backed config owner reservation shared (first.note session history) := by
      cases first with
      | hook hook => exact known.backed.extend (fun _ _ same => same) [_]
      | _ => exact known.backed
    exact noted.extend effect.keepsCounters outcome.events
  recorded := by
    rw [recordedIn_append neitherTracked neitherCleared, recordedIn_note]
    exact known.recorded

/-- A record is an earlier one, perhaps resolved since, or a tracked one. -/
theorem Effect.known
    (known : ∀ session reservation, shared.reserved session = some reservation →
    Known config session reservation shared history)
    (asserted : Asserted config session shared history first)
    {owner : Session}
    (found : outcome.shared.reserved owner = some reservation) :
    Known config owner reservation outcome.shared
      (outcome.events ++ first.note session history) := by
  have keeps := effect.keepsCounters
  have old := fun before => effect.known_old (known owner reservation before)
  by_cases here : owner = session
  · subst here
    have resolvedSince : ∀ before : ReservedSeq, shared.reserved owner = some before →
        some { before with resolved := true } = some reservation →
        (∀ number statementID, Event.tracked owner number statementID ∉ outcome.events) →
        Event.cleared owner ∉ outcome.events →
        Known config owner reservation outcome.shared
          (outcome.events ++ first.note owner history) := by
      intro before tracked same neitherTracked neitherCleared
      cases same
      have record := effect.known_old (known owner before tracked) neitherTracked neitherCleared
      exact ⟨record.backed, record.recorded⟩
    cases effect with
    | quiet plain inner frame | picked lane frame
    | notReserved frame | released frame issuer | notReleased frame | laneGone frame retired
    | rotated frame | reserved continued fresh sameSlot frame issuer =>
      rw [frame.reserved] at found
      exact old found (by simp) (by simp)
    | nonceFailed | minted same | signed | signFailed | notOpen done
    | burned => exact old found (by simp) (by simp)
    | freed member same =>
      rw [reserved_leaveSlot] at found
      exact old found (by simp) (by simp)
    | tracked =>
      simp only [setReserved, update_self] at found
      cases found
      exact ⟨Backed.extend asserted keeps _, if_pos rfl⟩
    | excepted tracked unresolved marked =>
      simp only [resolve, setReserved, update_self] at found
      exact resolvedSince _ tracked found (by simp) (by simp)
    | aborted tracked unresolved frame
    | sequenced tracked unresolved frame =>
      rw [frame.reserved] at found
      simp only [resolve, setReserved, update_self] at found
      exact resolvedSince _ tracked found (by simp) (by simp)
    | droppedState ends frame =>
      rw [frame.reserved] at found
      simp only [setReserved, update_self] at found
      cases found
  · rw [effect.elsewhere here] at found
    have apart : ∀ event ∈ outcome.events, event.session = owner →
        ∃ holder slot, event = .freed holder slot := by
      intro event member mine
      exact (effect.session_of_mem member).resolve_left fun its => here (mine.symm.trans its)
    apply old found
    · intro number statementID member
      obtain ⟨holder, slot, impossible⟩ := apart _ member rfl
      cases impossible
    · intro member
      obtain ⟨holder, slot, impossible⟩ := apart _ member rfl
      cases impossible

/-- A store counts as retired only once its lane was abandoned. -/
theorem Effect.retired
    (retired : ∀ store, shared.retired store = true → ∃ owner, abandoned owner store ∈ history)
    (store : Nat)
    (given : outcome.shared.retired store = true) :
    ∃ owner, abandoned owner store ∈ outcome.events ++ first.note session history := by
  have old : shared.retired store = true →
      ∃ owner, abandoned owner store ∈ outcome.events ++ first.note session history := by
    intro before
    obtain ⟨owner, member⟩ := retired store before
    refine ⟨owner, mem_append_right _ ?_⟩
    cases first with
    | hook hook => exact mem_cons_of_mem _ member
    | _ => exact member
  cases effect with
  | quiet plain inner frame | picked lane frame
  | notReserved frame | released frame issuer | notReleased frame | laneGone frame gone
  | reserved continued fresh sameSlot frame issuer
  | aborted tracked unresolved frame | sequenced tracked unresolved frame
  | droppedState ends frame =>
    rw [frame.retired] at given
    exact old given
  | rotated frame =>
    rename_i reservation rotation left after
    rw [frame.retired] at given
    by_cases same : store = left
    · subst same
      exact ⟨session, mem_cons_self⟩
    · have before : update shared.retired left true store = true := given
      rw [update_of_ne same] at before
      exact old before
  | nonceFailed | minted same | signed | signFailed | notOpen done
  | burned | tracked | excepted => exact old given
  | freed member same =>
    rw [retired_leaveSlot] at given
    exact old given

/-! ## Numbers -/

/-- A section issues the next reservation or none. -/
theorem Effect.numbering : (outcome.shared.nextReservation = shared.nextReservation ∧
    ∀ event ∈ outcome.events, event.issued = none) ∨
      (outcome.shared.nextReservation = shared.nextReservation + 1 ∧
        ∃ event, outcome.events = [event] ∧ event.issued = some shared.nextReservation) := by
  cases effect with
  | reserved continued fresh sameSlot frame issuer =>
    exact .inr ⟨frame.nextReservation, _, rfl, congrArg some fresh⟩
  | quiet plain inner frame | notReserved frame
  | aborted tracked unresolved frame => exact .inl ⟨frame.nextReservation, by simp⟩
  | picked found frame | released frame issuer | notReleased frame | laneGone frame retired
  | rotated frame | droppedState ends frame =>
    exact .inl ⟨frame.nextReservation, by simp [Event.issued]⟩
  | nonceFailed | signFailed | tracked | burned => exact .inl ⟨rfl, by simp [Event.issued]⟩
  | minted | signed | notOpen | excepted => exact .inl ⟨rfl, by simp⟩
  | freed member same =>
    refine .inl ⟨?_, by simp [Event.issued]⟩
    unfold leaveSlot
    simp only
    split <;> rfl
  | sequenced tracked unresolved frame => exact .inl ⟨frame.nextReservation, by simp [Event.issued]⟩

theorem Effect.issued (issued : ∀ number, tally (marks issued number) history =
    if number < shared.nextReservation then 1 else 0)
    (number : Nat) :
    tally (marks Event.issued number) (outcome.events ++ history) =
      if number < outcome.shared.nextReservation then 1 else 0 := by
  rw [tally_append, issued number]
  rcases effect.numbering with ⟨same, silent⟩ | ⟨next, event, alone, mark⟩
  · rw [same, tally_marks_eq_zero]
    · exact Nat.zero_add _
    · intro event member
      simp [silent event member]
  · rw [next, alone]
    simp only [tally_cons, tally_nil, marks, mark, Option.some.injEq]
    split <;> split <;> split <;> omega

end Steps

/-! ## Every run -/

variable (config : Config)

/-- Numbers, slots and reservations are all accounted for. -/
structure Sound (shared : Shared) (history : List Event) : Prop where
  issued : ∀ number, tally (marks issued number) history =
      if number < shared.nextReservation then 1 else 0
  slots : SlotsCounted shared history
  known : ∀ session reservation,
      shared.reserved session = some reservation → Known config session reservation shared history
  retired : ∀ store, shared.retired store = true → ∃ owner, abandoned owner store ∈ history
  justified : Justified history

def assertions : Assertions Shared Session Section Event where
  world := Sound config
  task := fun _ session waiting shared history => Asserted config session shared history waiting

theorem sound_new : Sound config new [] where
  issued := by
    intro number
    rfl
  slots :=
    { unique := nodup_nil
      below := by simp [new]
      taken := fun _ => rfl
      closed := fun _ _ => rfl
      counted := fun _ _ => rfl }
  known := by
    intro session reservation found
    cases found
  retired := by
    intro store impossible
    cases impossible
  justified := trivial

/-- An event that takes and frees no slot leaves the counts as they were. -/
theorem slotsCounted_cons
    {shared : Shared}
    {history : List Event}
    {event : Event}
    (counted : SlotsCounted shared history)
    (notTaken : event.taken = none)
    (notFreed : event.freedSlot = none) :
    SlotsCounted shared (event :: history) where
  unique := counted.unique
  below := counted.below
  taken := by
    intro slot
    simpa [marks, notTaken] using counted.taken slot
  closed := by
    intro owner slot
    simpa [marksIn, notTaken, notFreed] using counted.closed owner slot
  counted := counted.counted

/-- A call on its own leaves everything as it was. -/
theorem Sound.call
    {config : Config}
    {shared : Shared}
    {history : List Event}
    (sound : Sound config shared history)
    (session : Session)
    (hook : Hook) :
    Sound config shared (.called session hook :: history) where
  issued := by
    intro number
    simpa [marks, Event.issued] using sound.issued number
  slots := slotsCounted_cons sound.slots rfl rfl
  known := by
    intro owner reservation found
    have record := sound.known owner reservation found
    exact ⟨record.backed.extend (fun _ _ same => same) [.called session hook], record.recorded⟩
  retired := by
    intro store given
    obtain ⟨owner, member⟩ := sound.retired store given
    exact ⟨owner, mem_cons_of_mem _ member⟩
  justified := ⟨trivial, sound.justified⟩

theorem Sound.step
    {config : Config}
    {session : Session}
    {shared : Shared}
    {history : List Event}
    {first : Section}
    {outcome : Result}
    (sound : Sound config shared history)
    (asserted : Asserted config session shared history first)
    (effect : Effect config session shared first outcome) :
    Sound config outcome.shared (outcome.events ++ first.note session history) where
  issued := by
    apply effect.issued
    intro number
    rw [← sound.issued number]
    cases first <;> simp [Section.note, marks, Event.issued]
  slots := by
    have noted : SlotsCounted shared (first.note session history) := by
      cases first with
      | hook hook => exact slotsCounted_cons sound.slots rfl rfl
      | _ => exact sound.slots
    exact noted.step effect.slotChange
  known := fun _ _ => effect.known sound.known asserted
  retired := effect.retired sound.retired
  justified := effect.grounded (sound.known session) sound.retired asserted sound.justified

/-- The events of a section stand behind the note that its hook was entered. -/
theorem exec_history
    (answer : Answer)
    (session : Session)
    (shared : Shared)
    (first : Section)
    (history : List Event) :
    (exec config answer session shared first).events ++ history =
      (perform config answer session shared first).events ++ first.note session history := by
  cases first <;> simp [exec, Section.note]

/-- What a waiting section relies on outlives a section of any call. -/
theorem Asserted.exec
    {config : Config}
    {owner : Session}
    {shared : Shared}
    {history : List Event}
    {waiting : Section}
    (asserted : Asserted config owner shared history waiting)
    (answer : Answer)
    (session : Session)
    (first : Section) :
    Asserted config owner (SiStatement.exec config answer session shared first).shared
      ((SiStatement.exec config answer session shared first).events ++ history) waiting := by
  have effect : Effect config session shared first (perform config answer session shared first) :=
    perform_effect answer first
  exact asserted.extend effect.keepsCounters _

theorem assertions_kept : (assertions config).Kept (machine config) where
  calls := by
    intro session hook shared history sound
    exact Sound.call sound session hook
  waits := by
    intro session hook shared history place owner waiting asserted
    exact Asserted.extend asserted (fun _ _ same => same) [.called session hook]
  starts := by
    intro session hook shared history place sound
    trivial
  keeps := by
    intro place answer session first shared history outcome ran sound asserted
    subst ran
    have stepped := Sound.step sound asserted (perform_effect answer first)
    rw [← exec_history] at stepped
    exact stepped
  follows := by
    intro place answer session first shared history outcome later ran sound asserted member
    subst ran
    have effect : Effect config session shared first (perform config answer session shared first) :=
      perform_effect answer first
    have next := effect.asserted_next (Sound.known sound session) asserted member
    rw [← exec_history] at next
    exact next
  rests := by
    intro place answer session first shared history outcome waiting ran sound asserted old
    subst ran
    exact Asserted.exec old answer session first
  stable := by
    intro place answer session first shared history outcome other owner
      waiting elsewhere ran sound asserted old
    subst ran
    exact Asserted.exec old answer session first
  restarts := by
    intro shared history fresh restarted
    cases restarted

variable (world : World Shared Session Section Event)

/-- Nothing of the session is recorded and none of its calls goes on. -/
structure Dropped (session : Session) : Prop where
  unrecorded : world.shared.reserved session = none
  ended : ∀ task ∈ world.tasks, task.owner = session → task.todo = []

/-- Conservation of reserved seqs and of in-flight slots. -/
structure Conserved : Prop where
  resolvedOnce : ∀ reservation, tally (marks resolved reservation) world.history ≤ 1
  justified : Justified world.history
  inOnePlace : ∀ session reservation store seq,
      reserved session reservation store seq ∈ world.history →
      load (Section.carries reservation) session world.tasks +
          recorded session reservation world.shared +
          tally (marks resolved reservation) world.history = 1
  noneLeft : ∀ session, Dropped world session →
      ∀ reservation store seq, reserved session reservation store seq ∈ world.history →
        tally (marks resolved reservation) world.history = 1
  freedOnce : ∀ slot, tally (marks freedSlot slot) world.history ≤ 1
  allFreed : ∀ session, Dropped world session → ∀ slot, picked session slot ∈ world.history →
        tally (marks freedSlot slot) world.history = 1
  counted : ∀ networkID lane,
      inflightOf world.shared networkID lane = world.shared.slots.countP (Slot.isOn networkID lane)

section Run

variable (config : Config) (inputs : List (Input Session Hook Answer))

/--
Over every interleaving of hook calls a reserved seq is carried by one call,
recorded for its session or resolved once.  It is resolved by a release to
its issuer, by its loss to an abandoned lane, as sequenced or as burned, and
each of them has its grounds.  Its slot is freed once.
-/
theorem reservations_conserved : Conserved (run (machine config) new inputs) := by
  have sound := (Assertions.Hold.run (assertions_kept config) (sound_new config) inputs).invariant
  have balanced : ∀ session reservation,
      (reservationBalance config session reservation).Balanced (run (machine config) new inputs) :=
    fun session reservation => (reservationBalance_kept config session reservation).run rfl inputs
  have covered : ∀ session slot,
      (slotCover config session slot).Covered (run (machine config) new inputs) :=
    fun session slot => (slotCover_kept config session slot).run rfl inputs
  simp only [assertions, Balance.Balanced, reservationBalance, Cover.Covered,
    slotCover] at sound balanced covered
  generalize run (machine config) new inputs = world at *
  have issuedOnce : ∀ reservation, tally (marks issued reservation) world.history ≤ 1 := by
    intro reservation
    rw [sound.issued reservation]
    split <;> omega
  have takenOnce : ∀ slot, tally (marks taken slot) world.history ≤ 1 := by
    intro slot
    rw [sound.slots.taken slot]
    split <;> omega
  have resolvedBounded :
      ∀ reservation session, tally (marksIn resolved session reservation) world.history ≤
          tally (marksIn issued session reservation)
            world.history := by
    intro reservation session
    have equal := balanced session reservation
    omega
  have freedBounded : ∀ slot session, tally (marksIn freedSlot session slot) world.history ≤
      tally (marksIn taken session slot) world.history := by
    intro slot session
    have equal := sound.slots.closed session slot
    omega
  have inOnePlace : ∀ session reservation store seq,
      reserved session reservation store seq ∈ world.history →
      load (Section.carries reservation) session world.tasks +
          recorded session reservation world.shared +
          tally (marks resolved reservation) world.history = 1 := by
    intro session reservation store seq member
    rw [tally_closing_eq (issuedOnce reservation) (resolvedBounded reservation) member rfl]
    exact (balanced session reservation).trans
      (tally_opening_eq_one (issuedOnce reservation) member rfl)
  refine
    { resolvedOnce := ?_
      justified := sound.justified
      inOnePlace := inOnePlace
      noneLeft := ?_
      freedOnce := ?_
      allFreed := ?_
      counted := sound.slots.counted }
  · intro reservation
    exact tally_closing_le_one (issuedOnce reservation) (resolvedBounded reservation)
  · intro session dropped reservation store seq member
    have place := inOnePlace session reservation store seq member
    have idle : load (Section.carries reservation) session world.tasks = 0 :=
      load_eq_zero dropped.ended
    have unrecorded : recorded session reservation world.shared = 0 := by
      simp [recorded, dropped.unrecorded]
    omega
  · intro slot
    exact tally_closing_le_one (takenOnce slot) (freedBounded slot)
  · intro session dropped slot member
    have opened : tally (marksIn taken session slot) world.history = 1 :=
      tally_opening_eq_one (takenOnce slot) member rfl
    have all : tally (marks freedSlot slot) world.history =
        tally (marksIn freedSlot session slot) world.history :=
      tally_closing_eq (takenOnce slot) (freedBounded slot) member rfl
    have idle : load (Section.refersTo slot) session world.tasks = 0 := load_eq_zero dropped.ended
    have unrecorded : recordedSlot session slot world.shared = 0 := by
      simp [recordedSlot, dropped.unrecorded]
    have referred := covered session slot
    have closed := sound.slots.closed session slot
    omega

end Run

/-! ## A seq that no report gives back -/

/-- An exception with the marker, or an abort before the query was sent. -/
def Event.reportsUnspent : Event → Bool
  | .called _ (.onException message) => hasSeqUnspentSuffix message
  | .called _ (.onQueryAbort _ upstreamQueryUnsent) => upstreamQueryUnsent
  | _ => false

/-- One INSERT whose statement cannot be signed. -/
def unsignedInsert : List (Input Session Hook Answer) :=
  let statement : PendingStatement := ⟨[113], [], [], false, 0, []⟩
  let answer : Answer := ⟨.error .acquire, false, true, .ok 1, .ok (), some [7], false, .ok ()⟩
  [.call 0 (.onQuery [113] (.claimed false statement)), .advance 0 answer, .advance 0 answer,
    .call 0 (.onClientDataStrict [113] [1]),
    .advance 1 answer,
    .call 0 (.onQueryInputCompleteStrict [113] none),
    .advance 2 answer, .advance 2 answer, .advance 2 answer,
    .advance 2 answer, .advance 2 answer, .advance 2 answer,
    .advance 2 answer, .advance 2 answer]

/-- The seq of a statement that was not signed goes back unreported. -/
theorem unsigned_insert_releases_seq : ∃ store, released 0 0 store 1 ∈
    (run (machine ⟨[97], .off, 0, 10, true⟩) new unsignedInsert).history ∧
        ∀ event ∈ (run (machine ⟨[97], .off, 0, 10, true⟩) new unsignedInsert).history,
          event.reportsUnspent = false :=
  ⟨.seq, by decide +kernel⟩

end HouseGate.SiStatement
