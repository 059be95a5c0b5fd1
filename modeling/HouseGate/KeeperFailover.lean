import Mathlib.Data.List.Rotate
import HouseGate.DecimalText
import HouseGate.TaskPool

namespace HouseGate.KeeperFailover

open DecimalText List TaskPool

/-!
# Failover of the Keeper proxy

Every connection that the Keeper proxy accepts dials the configured upstreams
in turn.  The calls share health marks and a rotation index: a call reads them
once, under the lock, when it lists its candidates, and every dial leaves a
mark.  What a call dials is therefore decided by the marks that it finds when
it starts, whatever other calls do meanwhile.
-/

/-- A keeper, as the last dial found it. -/
structure KeeperUpstream where
  addr : Bytes
  healthy : Bool
  deriving DecidableEq

/-- The keepers and where the next dial starts. -/
structure KeeperUpstreams where
  upstreams : List KeeperUpstream
  next : Nat
  deriving DecidableEq

/-- The upstreams of a server whose addresses all pass `SplitHostPort`. -/
def newKeeperUpstreams (addrs : List Bytes) : KeeperUpstreams := ⟨addrs.map (⟨·, true⟩), 0⟩

section Upstreams

variable (state : KeeperUpstreams)

/-- The upstream at an offset is the one at `(next + offset) % len`. -/
def KeeperUpstreams.candidatesLocked (onlyHealthy : Bool) : List Bytes × KeeperUpstreams :=
  let candidates := ((state.upstreams.rotate state.next).filter fun upstream =>
    !onlyHealthy || upstream.healthy).map KeeperUpstream.addr
  (candidates, if candidates = [] then state
    else { state with next := (state.next + 1) % state.upstreams.length })

def KeeperUpstreams.candidates : List Bytes × KeeperUpstreams :=
  let (healthy, after) := state.candidatesLocked true
  if healthy ≠ [] then (healthy, after) else after.candidatesLocked false

def markFirst (addr : Bytes) (healthy : Bool) : List KeeperUpstream → List KeeperUpstream
  | [] => []
  | upstream :: rest =>
    if upstream.addr = addr then { upstream with healthy := healthy } :: rest
    else upstream :: markFirst addr healthy rest

/-- Only the first upstream of an address is marked. -/
def KeeperUpstreams.mark (addr : Bytes) (healthy : Bool) : KeeperUpstreams :=
  { state with upstreams := markFirst addr healthy state.upstreams }

def KeeperUpstreams.addrs : List Bytes := state.upstreams.map KeeperUpstream.addr

end Upstreams

section Calls

/-- Why no keeper was reached. -/
inductive DialError where
  | noKeeperUpstreams
  | allUnavailable (lastAddr : Bytes)
  deriving DecidableEq

/-- Where a call of `dialUpstream` stands; `marks` are those it listed its candidates by. -/
inductive Section where
  | candidates
  | dial (marks : KeeperUpstreams) (addr : Bytes) (rest failed : List Bytes)

/-- `failed` names the upstreams that the call dialed in vain. -/
inductive Event where
  | called
  | connected (call : Nat) (addr : Bytes)
  | failed (call : Nat) (error : DialError) (marks : KeeperUpstreams) (failed : List Bytes)
  deriving DecidableEq

/-- The error of a call by the last address it dialed. -/
def dialError (failed : List Bytes) : DialError :=
  match failed.getLast? with
  | none => .noKeeperUpstreams
  | some addr => .allUnavailable addr

/-- One round of the loop: the next dial, or the error at its end. -/
def dialNext (call : Nat) (marks after : KeeperUpstreams) (failed : List Bytes) :
    List Bytes → Outcome KeeperUpstreams Section Event
  | [] => ⟨after, [], [.failed call (dialError failed) marks failed]⟩
  | addr :: rest => ⟨after, [.dial marks addr rest failed], []⟩

/-- `dialed` is the outcome of a dial. -/
def dialUpstream (call : Nat) (dialed : Bool) (_ : Unit) :
    Section → KeeperUpstreams → Outcome KeeperUpstreams Section Event
  | .candidates, state => dialNext call state state.candidates.2 [] state.candidates.1
  | .dial marks addr rest failed, state =>
    if dialed then ⟨state.mark addr true, [], [.connected call addr]⟩
    else dialNext call marks (state.mark addr false) (failed ++ [addr]) rest

/-- The calls of one server, started as connections are accepted. -/
def keeperServer : Machine KeeperUpstreams Unit Unit Section Bool Event where
  start := fun _ _ => .candidates
  called := fun _ _ => .called
  exec := dialUpstream
  restart := fun _ => none

end Calls

section Candidates

variable {state : KeeperUpstreams} {addr : Bytes}

theorem map_addr_markFirst
    (addr : Bytes)
    (healthy : Bool)
    (upstreams : List KeeperUpstream) :
    (markFirst addr healthy upstreams).map KeeperUpstream.addr =
      upstreams.map KeeperUpstream.addr := by
  fun_induction markFirst addr healthy upstreams with
  | case1 => rfl
  | case2 => rfl
  | case3 upstream rest other inductionHypothesis => simp [inductionHypothesis]

variable (state)

theorem addrs_candidatesLocked (onlyHealthy : Bool) :
    (state.candidatesLocked onlyHealthy).2.addrs = state.addrs := by
  simp only [KeeperUpstreams.candidatesLocked]
  split <;> rfl

theorem addrs_candidates : state.candidates.2.addrs = state.addrs := by
  simp only [KeeperUpstreams.candidates]
  split
  · exact addrs_candidatesLocked state true
  · rw [addrs_candidatesLocked, addrs_candidatesLocked]

/-- Every configured address is that of a healthy upstream, or no upstream is. -/
def KeeperUpstreams.Unfiltered : Prop :=
  (∀ upstream ∈ state.upstreams, upstream.healthy = false) ∨
    ∀ addr ∈ state.addrs, ∃ upstream ∈ state.upstreams,
      upstream.healthy = true ∧ upstream.addr = addr

variable {state}

theorem candidates_complete_iff :
    (∀ addr ∈ state.addrs, addr ∈ state.candidates.1) ↔ state.Unfiltered := by
  have hidden : (state.candidatesLocked true).1 = [] ↔
      ∀ upstream ∈ state.upstreams, upstream.healthy = false := by
    simp [KeeperUpstreams.candidatesLocked]
  simp only [KeeperUpstreams.candidates, KeeperUpstreams.Unfiltered]
  by_cases none : (state.candidatesLocked true).1 = []
  · have same : (state.candidatesLocked true).2 = state := if_pos none
    rw [if_neg (not_not.mpr none), same]
    refine iff_of_true ?_ (.inl (hidden.mp none))
    simp [KeeperUpstreams.candidatesLocked, KeeperUpstreams.addrs]
  · rw [if_pos none, or_iff_right (mt hidden.mpr none)]
    simp [KeeperUpstreams.candidatesLocked, and_assoc]

end Candidates

section Runs

/-- A call that listed its candidates by these marks has dialed some of them. -/
def Listed (addrs : List Bytes) (marks : KeeperUpstreams) (candidates : List Bytes) : Prop :=
  marks.addrs = addrs ∧ marks.candidates.1 = candidates

def Asserted (addrs : List Bytes) : Section → Prop
  | .candidates => True
  | .dial marks addr rest failed => Listed addrs marks (failed ++ addr :: rest)

/-- The addresses stay, and a call that failed has dialed all its candidates. -/
structure Sound
    (addrs : List Bytes)
    (state : KeeperUpstreams)
    (history : List Event) : Prop where
  configured : state.addrs = addrs
  failed : ∀ call error marks failed,
    .failed call error marks failed ∈ history → Listed addrs marks failed

variable {addrs : List Bytes} {call : Nat} {history : List Event} {state after : KeeperUpstreams}
  (sound : Sound addrs state history)

include sound

theorem Sound.quiet {event : Event} (same : after.addrs = state.addrs)
    (quiet : ∀ call error marks failed, event ≠ .failed call error marks failed) :
    Sound addrs after (event :: history) where
  configured := same.trans sound.configured
  failed := by
    intro call error marks failed member
    rcases mem_cons.mp member with own | old
    · exact absurd own.symm (quiet call error marks failed)
    · exact sound.failed call error marks failed old

/-- The rest of a call's candidates is dialed, or all of them have failed. -/
theorem Sound.dialNext {marks : KeeperUpstreams} {failed rest : List Bytes}
    (same : after.addrs = state.addrs) (listed : Listed addrs marks (failed ++ rest)) :
    let outcome := dialNext call marks after failed rest
    Sound addrs outcome.shared (outcome.events ++ history) ∧
      ∀ later ∈ outcome.next, Asserted addrs later := by
  cases rest with
  | nil =>
    rw [append_nil] at listed
    refine ⟨⟨same.trans sound.configured, ?_⟩, nofun⟩
    intro other error found all member
    rcases mem_cons.mp member with own | old
    · cases own
      exact listed
    · exact sound.failed other error found all old
  | cons addr rest =>
    exact ⟨⟨same.trans sound.configured, sound.failed⟩, forall_mem_singleton.mpr listed⟩

theorem Sound.dialUpstream
    {first : Section}
    (asserted : Asserted addrs first)
    (dialed : Bool)
    (owner : Unit) :
    let outcome := dialUpstream call dialed owner first state
    Sound addrs outcome.shared (outcome.events ++ history) ∧
      ∀ later ∈ outcome.next, Asserted addrs later := by
  cases first with
  | candidates => exact sound.dialNext (addrs_candidates state) ⟨sound.configured, rfl⟩
  | dial marks addr rest failed =>
    have marked : ∀ healthy, (state.mark addr healthy).addrs = state.addrs :=
      fun healthy => map_addr_markFirst addr healthy state.upstreams
    cases dialed with
    | true => exact ⟨sound.quiet (marked true) nofun, nofun⟩
    | false =>
      apply sound.dialNext (marked false)
      rw [append_assoc]
      exact asserted

omit sound

def assertions (addrs : List Bytes) : Assertions KeeperUpstreams Unit Section Event where
  world := Sound addrs
  task := fun _ _ waiting _ _ => Asserted addrs waiting

theorem assertions_kept (addrs : List Bytes) : (assertions addrs).Kept keeperServer where
  calls := fun sound => Sound.quiet sound rfl nofun
  waits := fun asserted => asserted
  starts := fun _ => trivial
  keeps := by
    intro call dialed owner first state history outcome ran sound asserted
    subst ran
    exact (Sound.dialUpstream sound asserted dialed owner).1
  follows := by
    intro call dialed owner first state history outcome later ran sound asserted member
    subst ran
    exact (Sound.dialUpstream sound asserted dialed owner).2 later member
  rests := fun _ _ _ old => old
  stable := fun _ _ _ _ old => old
  restarts := nofun

/--
In every interleaving of calls, a call that returns an error has dialed every
configured upstream if and only if the marks that it found hid none.
-/
theorem failed_dialed_all_iff
    (addrs : List Bytes)
    (inputs : List (Input Unit Unit Bool)) :
    ∀ call error marks failed,
      .failed call error marks failed ∈
        (run keeperServer (newKeeperUpstreams addrs) inputs).history →
      marks.addrs = addrs ∧ ((∀ addr ∈ addrs, addr ∈ failed) ↔ marks.Unfiltered) := by
  intro call error marks failed member
  have starts : Sound addrs (newKeeperUpstreams addrs) [] := by
    refine ⟨?_, by simp⟩
    simp [newKeeperUpstreams, KeeperUpstreams.addrs, Function.comp_def]
  have sound := (Assertions.Hold.run (assertions_kept addrs) starts inputs).invariant
  obtain ⟨rfl, rfl⟩ := Sound.failed sound call error marks failed member
  exact ⟨rfl, candidates_complete_iff⟩

/-- Two calls at once, on a server whose two upstreams are both down. -/
theorem failed_dialed_all_pair :
    (∀ addr ∈ [([1] : Bytes), [2]], addr ∈ [[1], [2]]) ↔
      (newKeeperUpstreams [[1], [2]]).Unfiltered :=
  failed_dialed_all_iff [[1], [2]]
    [.call () (), .call () (), .advance 0 true, .advance 1 true, .advance 0 false,
      .advance 1 false, .advance 0 false, .advance 1 false]
    0 (.allUnavailable [2]) _ [[1], [2]] (by decide) |>.2

/-- The marks of one call hide an upstream from the next one. -/
theorem failed_undialed : ∃ error marks failed, [1] ∉ failed ∧
    .failed 1 error marks failed ∈ (run keeperServer (newKeeperUpstreams [[1], [2]])
      [.call () (), .advance 0 true, .advance 0 false, .advance 0 true,
        .call () (), .advance 1 true, .advance 1 false]).history :=
  ⟨.allUnavailable [2], ⟨[⟨[1], false⟩, ⟨[2], true⟩], 1⟩, [[2]], by decide, by decide⟩

end Runs

end HouseGate.KeeperFailover
