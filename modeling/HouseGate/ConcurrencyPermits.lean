import HouseGate.AsciiText
import HouseGate.KeyedSlots

namespace HouseGate.ConcurrencyPermits

open AsciiText DecimalText KeyedSlots List

/-!
# Concurrency permits

The limiter plugin keeps the permit of a session's query under the id of the
session.  All proxy servers of a process call the hooks of one plugin, and
every server numbers its sessions itself.  A permit is released by the session
that acquired it, once, as long as ids are told apart and no query starts
before the last one has ended.
-/

/-! ## The limiter -/

/-- A quota that a query counts against. -/
structure Dimension where
  name : Bytes
  value : Bytes
  quota : Int

/-- The id, which is unique, is the number of the query; zero is the empty id. -/
structure Permit where
  number : Nat
  keys : List Bytes
  deriving DecidableEq

def Permit.isZero (permit : Permit) : Bool := permit.number == 0 && permit.keys.isEmpty

def keyOf (dimName value : Bytes) : Bytes :=
  ascii "housegate:concurrency:" ++ dimName ++ ascii ":" ++ value

/-- How the acquire script comes back. -/
inductive ScriptReply where
  | failed (err : Bytes)
  | notText
  | text (reply : Bytes)

/-- Why the limiter's script granted nothing. -/
inductive AcquireError where
  | scriptFailed (err : Bytes)
  | unexpectedReplyType
  | malformedReply (reply : Bytes)
  | unknownStatus (status : Bytes)
  | quotaExceeded (detail : Bytes)

/-- `errors.Is(err, ErrAcquireFailed)`. -/
def AcquireError.isAcquireFailed (err : AcquireError) : Bool :=
  match err with
  | .quotaExceeded _ => false
  | _ => true

def colon : UInt8 := 58

/-- `Acquire` of the Redis limiter. -/
def acquire
    (number : Nat) (dims : List Dimension) (reply : ScriptReply) : Except AcquireError Permit :=
  if dims.isEmpty then
    .ok ⟨0, []⟩
  else
    match reply with
    | .failed err => .error (.scriptFailed err)
    | .notText => .error .unexpectedReplyType
    | .text reply =>
      let status := reply.takeWhile (· ≠ colon)
      if colon ∉ reply ∧ reply ≠ ascii "ok" then
        .error (.malformedReply reply)
      else if status = ascii "ok" then
        .ok ⟨number, dims.map fun dim => keyOf dim.name dim.value⟩
      else if status = ascii "quota" then
        .error (.quotaExceeded (reply.drop (status.length + 1)))
      else
        .error (.unknownStatus status)

/-! ## The plugin -/

/-- `ρ` is a session with its query, as the resolvers see them. -/
structure Plugin (ρ : Type) where
  hasLimiter : Bool
  resolvers : List (ρ → Dimension)
  failOpen : Bool

/-- What the client is told instead of its answer. -/
inductive Refusal where
  | limiterUnavailable (err : AcquireError)
  | quotaExceeded (err : AcquireError)

variable {ρ : Type}

/-- `OnQuery` up to the permit that it stores. -/
def Plugin.onQuery (plugin : Plugin ρ) (number : Nat) (query : ρ)
    (reply : ScriptReply) : Option Refusal × Option Permit :=
  if !plugin.hasLimiter || plugin.resolvers.isEmpty then
    (none, none)
  else
    let dims := (plugin.resolvers.map (· query)).filter fun dim => !dim.value.isEmpty
    if dims.isEmpty then
      (none, none)
    else
      match acquire number dims reply with
      | .error err =>
        if err.isAcquireFailed then
          (if plugin.failOpen then none else some (.limiterUnavailable err), none)
        else
          (some (.quotaExceeded err), none)
      | .ok permit => (none, if permit.isZero then none else some permit)

/-- The plugin's hooks, with the permits granted. -/
inductive Hook where
  | query (granted : Option Permit)
  | complete
  | close
  deriving DecidableEq

/-- What a hook does to the permit stored under its session's id, and which it releases. -/
def runHook (hook : Hook) (stored : Option Permit) : Option Permit × Option Permit :=
  match hook with
  | .query none => (none, stored)
  | .query (some permit) => (none, some permit)
  | .complete | .close => (stored, none)

/-- Hooks are called until the session is closed. -/
def permitHook (closed : Bool) (hook : Hook) : Option Bool :=
  if closed then none else some (hook = .close)

def machine : Machine (Option Permit) Bool Hook (Option Permit) where
  empty := none
  born := false
  left := id
  permit := permitHook
  act := fun _ => runHook

abbrev Event := KeyedSlots.Event Hook (Option Permit)

/-- The sessions of all servers and the ids drawn so far. -/
structure World where
  nextID : Nat → Int64
  queries : Nat
  chain : KeyedSlots.World (Option Permit) Int64 Bool Hook (Option Permit)

def World.initial : World := ⟨fun _ => 0, 0, ⟨[], fun _ => none, []⟩⟩

/-- What clients and servers may do. -/
inductive Step (ρ : Type) where
  | accept (server : Nat)
  | query (session : Nat) (query : ρ) (reply : ScriptReply)
  | complete (session : Nat)
  | close (session : Nat)

def World.step (plugin : Plugin ρ) (world : World) (step : Step ρ) : World :=
  match step with
  | .accept server =>
    let id := world.nextID server + 1
    { world with
      nextID := Function.update world.nextID server id
      chain := world.chain.enter machine id }
  | .query session query reply =>
    let number := world.queries + 1
    { world with
      queries := number
      chain := world.chain.act machine session (.query (plugin.onQuery number query reply).2) }
  | .complete session => { world with chain := world.chain.act machine session .complete }
  | .close session => { world with chain := world.chain.act machine session .close }

/-! ## Permits and queries -/

def granted (event : Event) : List Permit :=
  match event.action with
  | .query permit => permit.toList
  | _ => []

def acquired (session : Nat) (history : List Event) : List Permit :=
  (history.filter (·.owner = session)).flatMap granted

def released (session : Nat) (history : List Event) : List Permit :=
  (history.filter (·.owner = session)).filterMap (·.reply)

/-- The permits of a session's queries that have neither completed nor been closed. -/
def inProgress (session : Nat) : List Event → List Permit
  | [] => []
  | event :: earlier =>
    if event.owner ≠ session then
      inProgress session earlier
    else
      match event.action with
      | .query permit => permit.toList ++ inProgress session earlier
      | _ => []

/-- The permits for a key that a session acquired and did not release. -/
def held (key : Bytes) (history : List Event) (session : Nat) : Nat :=
  (acquired session history).countP (key ∈ ·.keys) -
    (released session history).countP (key ∈ ·.keys)

def running (key : Bytes) (history : List Event) (session : Nat) : Nat :=
  (inProgress session history).countP (key ∈ ·.keys)

/-- The id of a new session is no connected one's, and a query finds no permit of its session. -/
def World.Apart (world : World) (step : Step ρ) : Prop :=
  match step with
  | .accept server => KeyFree machine (world.nextID server + 1) world.chain.owners
  | .query session _ _ =>
    ∀ owner, world.chain.owners[session]? = some owner →
      owner.life = false → world.chain.store owner.key = none
  | _ => True

/-- Every step of a run is one of those. -/
def RunApart (plugin : Plugin ρ) : World → List (Step ρ) → Prop
  | _, [] => True
  | world, step :: rest => world.Apart step ∧ RunApart plugin (world.step plugin step) rest

/-! ## Every run -/

def Coherent (closed : Bool) (stored : Option Permit) : Prop := closed = true → stored = none

theorem tidy_machine : Tidy machine Coherent where
  born := nofun
  act := by
    intro closed later number hook stored _ permitted gone
    cases closed with
    | true => cases permitted
    | false =>
      obtain rfl : decide (hook = .close) = later := Option.some.inj permitted
      rw [of_decide_eq_true gone]
      rfl
  left := fun _ _ coherent gone => coherent gone
  silent := fun _ _ gone => if_pos gone

/-- With a slot for every session, it holds what the session has in progress. -/
structure Holds
    (queries : Nat) (separate : PrivateWorld (Option Permit) Int64 Bool Hook (Option Permit)) :
    Prop where
  stored : ∀ session, (separate.slots session).toList = inProgress session separate.history
  once : ∀ session, (released session separate.history ++ inProgress session separate.history).Perm
      (acquired session separate.history)
  numbered : ∀ permit ∈ separate.history.flatMap granted, permit.number ≤ queries
  distinct : (separate.history.flatMap granted).Nodup

section Steps

variable {queries later session : Nat} {hook : Hook} {history : List Event}
  {separate : PrivateWorld (Option Permit) Int64 Bool Hook (Option Permit)}

/-- A hook releases what its session has in progress, or starts a query. -/
theorem once_cons {stored : Option Permit} (own : stored.toList = inProgress session history)
    (once :
      (released session history ++ inProgress session history).Perm (acquired session history)) :
    (released session (⟨session, hook, (runHook hook stored).1⟩ :: history) ++
        inProgress session (⟨session, hook, (runHook hook stored).1⟩ :: history)).Perm
      (acquired session (⟨session, hook, (runHook hook stored).1⟩ :: history)) := by
  cases hook with
  | query permit =>
    have kept : (runHook (.query permit) stored).1 = none := by
      cases permit <;> rfl
    simpa [released, inProgress, acquired, granted, kept] using
      (perm_append_comm_assoc _ _ _).trans (once.append_left permit.toList)
  | complete | close =>
    have all : (stored.toList ++ released session history).Perm (acquired session history) := by
      rw [own]
      exact perm_append_comm.trans once
    cases stored with
    | none | some permit => simpa [released, inProgress, acquired, granted, runHook] using all

theorem Holds.act (holds : Holds queries separate) (grown : queries ≤ later)
    (fresh : ∀ permit, hook = .query (some permit) →
        queries < permit.number ∧ permit.number ≤ later ∧ separate.slots session = none) :
    Holds later (separate.act machine session hook) := by
  have wider : ∀ permit ∈ separate.history.flatMap granted, permit.number ≤ later :=
    fun permit member => (holds.numbered permit member).trans grown
  unfold PrivateWorld.act
  split
  · exact ⟨holds.stored, holds.once, wider, holds.distinct⟩
  split
  · exact ⟨holds.stored, holds.once, wider, holds.distinct⟩
  refine ⟨?_, ?_, ?_, ?_⟩
  · intro other
    by_cases same : other = session
    · subst same
      rcases hook with (_ | permit) | _ | _
      · simpa [machine, runHook, inProgress] using holds.stored other
      · have empty := holds.stored other
        rw [(fresh permit rfl).2.2] at empty
        simp [machine, runHook, inProgress, ← empty]
      · simp [machine, runHook, inProgress]
      · simp [machine, runHook, inProgress]
    · simpa [inProgress, same, Ne.symm same] using holds.stored other
  · intro other
    by_cases same : other = session
    · subst same
      exact once_cons (holds.stored other) (holds.once other)
    · simpa [released, inProgress, acquired, Ne.symm same] using holds.once other
  · rcases hook with (_ | permit) | _ | _
    · exact wider
    · exact forall_mem_cons.mpr ⟨(fresh permit rfl).2.1, wider⟩
    · exact wider
    · exact wider
  · rcases hook with (_ | permit) | _ | _
    · exact holds.distinct
    · refine nodup_cons.mpr ⟨?_, holds.distinct⟩
      intro repeated
      exact absurd (holds.numbered permit repeated) (Nat.not_le.mpr (fresh permit rfl).1)
    · exact holds.distinct
    · exact holds.distinct

end Steps

theorem acquire_number
    {number : Nat}
    {dims : List Dimension}
    {reply : ScriptReply}
    {permit : Permit}
    (acquired : acquire number dims reply = .ok permit)
    (nonzero : permit.isZero = false) :
    permit.number = number := by
  unfold acquire at acquired
  split_ifs at acquired
  · cases acquired
    cases nonzero
  split at acquired
  · cases acquired
  · cases acquired
  · dsimp only at acquired
    split_ifs at acquired
    cases acquired
    rfl

theorem onQuery_number
    {plugin : Plugin ρ}
    {number : Nat}
    {query : ρ}
    {reply : ScriptReply}
    {permit : Permit}
    (granted : (plugin.onQuery number query reply).2 = some permit) :
    permit.number = number := by
  unfold Plugin.onQuery at granted
  split at granted
  · cases granted
  dsimp only at granted
  split at granted
  · cases granted
  split at granted
  · split at granted <;> cases granted
  · rename_i acquired
    split_ifs at granted with zero
    cases granted
    exact acquire_number acquired (Bool.not_eq_true _ ▸ zero)

/-- The shared permits are as good as a slot for every session. -/
def Kept (world : World) : Prop :=
  ∃ separate, Agree machine Coherent world.chain separate ∧ Holds world.queries separate

section Runs

variable {plugin : Plugin ρ} {world : World}

theorem Kept.step
    {step : Step ρ}
    (kept : Kept world)
    (apart : world.Apart step) :
    Kept (world.step plugin step) := by
  obtain ⟨separate, agree, holds⟩ := kept
  cases step with
  | accept server =>
    exact ⟨_, KeyedSlots.agree_enter tidy_machine agree apart,
      holds.stored, holds.once, holds.numbered, holds.distinct⟩
  | query session query reply =>
    refine ⟨_, agree_act session _ tidy_machine agree, holds.act (Nat.le_succ _) ?_⟩
    intro permit asked
    rw [onQuery_number (Hook.query.inj asked)]
    refine ⟨Nat.lt_succ_self _, le_rfl, ?_⟩
    cases listed : world.chain.owners[session]? with
    | none => exact agree.fresh session (getElem?_eq_none_iff.mp listed)
    | some owner =>
      cases closed : owner.life with
      | true => exact agree.kept session owner listed closed
      | false =>
        rw [← agree.same session owner listed closed]
        exact apart owner listed closed
  | complete session | close session =>
    exact ⟨_, agree_act session _ tidy_machine agree, holds.act le_rfl nofun⟩

theorem Kept.run
    {steps : List (Step ρ)}
    (kept : Kept world)
    (apart : RunApart plugin world steps) :
    Kept (steps.foldl (World.step plugin) world) := by
  induction steps generalizing world with
  | nil => exact kept
  | cons step rest inductionHypothesis =>
    exact inductionHypothesis (kept.step apart.1) apart.2

end Runs

/-- The script of the limiter grants the permit. -/
def accepted : ScriptReply := .text (ascii "ok")

end HouseGate.ConcurrencyPermits
