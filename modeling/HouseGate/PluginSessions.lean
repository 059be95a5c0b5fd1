import HouseGate.DecimalText
import HouseGate.KeyedSlots

namespace HouseGate.PluginSessions

open DecimalText

/-!
# Sessions over one plugin chain

The storage-integrity plugin and the rewrite plugin keep their per-session
state in maps keyed by the session id: `active`, `pending`, `rewriters` and
`snapshots`.  Every hook reads and writes these maps at the id of its own
session only, so the maps are modelled by what they hold at one id.  Session
ids are handed out by every proxy server on its own, and all servers of a
process call the hooks of one chain.

`φ` is what a query's checks fix about a storage-integrity INSERT: the signer,
the table, the hashes, the tokens and the client revision.  `τ` is a table
snapshot.
-/

variable {φ τ : Type}

/-- The settings that the plugin reads. -/
structure Config where
  enabled : Bool
  hasConsumer : Bool
  maxPayload : Nat

/-- A statement whose input is still coming. -/
structure AdmissionState (φ : Type) where
  statementID : Bytes
  facts : φ
  payload : Bytes
  complete : Bool

/-- A statement as its consumer is handed it. -/
structure Admission (φ : Type) where
  statementID : Bytes
  facts : φ
  payload : Bytes
  complete : Bool
  deriving DecidableEq

/--
What the maps hold at one id.  A cached Rewriter is known by the session it
was built from.
-/
structure Entry (φ τ : Type) where
  active : Option (AdmissionState φ)
  pending : Option (AdmissionState φ)
  rewriter : Option Nat
  snapshot : Option τ

def Entry.empty : Entry φ τ := ⟨none, none, none, none⟩

/-- How the checks of `OnQuery` before its lock end. -/
inductive QueryChecks (φ : Type) where
  | passed
  | refused
  | insert (facts : φ)

/-- The hooks of a session, with what they read. -/
inductive Hook (φ τ : Type) where
  | connect
  | connectRejected
  | query (queryID : Bytes) (checks : QueryChecks φ)
  | clientData (queryID raw : Bytes) (canceled : Bool)
  | readLimit
  | inputCompleteStrict (queryID : Bytes) (check : φ → Bytes → Option φ) (consumed : Bool)
  | inputComplete (queryID : Bytes)
  | abort (queryID : Bytes)
  | consume (check : φ → Bytes → Option φ)
  | rewriterLoad
  | rewriterStore
  | snapshotStore (snapshot : τ)
  | snapshotLoad
  | close
  | disconnect

/-- What a hook answers. -/
inductive Reply (φ τ : Type) where
  | passed
  | refused
  | notCompleted (statementID : Bytes)
  | notConsumed (statementID : Bytes)
  | staged (suppressed : Bool)
  | tooLarge (length : Nat)
  | limit (remaining : Option Nat)
  | incomplete (statementID : Bytes)
  | handed (admission : Admission φ) (consumed : Bool)
  | parked
  | notFound
  | rewriter (builtFrom : Option Nat)
  | snapshot (snapshot : Option τ)
  deriving DecidableEq

variable (config : Config)
  (queryID : Bytes)

/-- `OnQuery` of the storage-integrity plugin. -/
def onQuery (checks : QueryChecks φ) (entry : Entry φ τ) : Reply φ τ × Entry φ τ :=
  if !config.enabled then
    (.passed, entry)
  else
    match checks with
    | .passed => (.passed, entry)
    | .refused => (.refused, entry)
    | .insert facts =>
      match entry.active, entry.pending with
      | some existing, _ => (.notCompleted existing.statementID, entry)
      | none, some existing => (.notConsumed existing.statementID, entry)
      | none, none =>
        (.staged config.hasConsumer, { entry with
            active := some ⟨trimSpace queryID, facts, [], false⟩ })

/-- A state for another statement than the query's stays where it is. -/
def dropStatement (slot : Option (AdmissionState φ)) : Option (AdmissionState φ) :=
  slot.filter fun state => state.statementID != trimSpace queryID

variable (entry : Entry φ τ)

def abortQuery : Entry φ τ := { entry with
    active := dropStatement queryID entry.active
    pending := dropStatement queryID entry.pending }

def onClientDataStrict (queryID raw : Bytes) (canceled : Bool)
    (entry : Entry φ τ) : Reply φ τ × Entry φ τ :=
  if !config.enabled || raw.isEmpty then
    (.passed, entry)
  else if canceled then
    (.refused, abortQuery queryID entry)
  else
    match entry.active with
    | none => (.passed, entry)
    | some state =>
      let nextLen := state.payload.length + raw.length
      if 0 < config.maxPayload ∧ config.maxPayload < nextLen then
        (.tooLarge nextLen, { entry with active := none })
      else
        (.passed, { entry with
            active := some { state with payload := state.payload ++ raw } })

def clientDataReadLimit : Option Nat :=
  if !config.enabled then
    none
  else
    entry.active.map fun state => config.maxPayload - state.payload.length

variable (check : φ → Bytes → Option φ)

/--
The statement token, the signer and the write authorization are checked by
`check` over the captured payload; it returns the facts with the owner and the
principal of that moment.
-/
def admissionFromState (state : AdmissionState φ) : Option (Admission φ) :=
  if state.payload.isEmpty then
    none
  else
    match check state.facts state.payload with
    | none => none
    | some facts =>
      if 0 < config.maxPayload ∧ config.maxPayload < state.payload.length then
        none
      else if !state.complete then
        none
      else
        some ⟨state.statementID, facts, state.payload, state.complete⟩

/-- The reply once a state has been taken out of its map. -/
def handOver (consumed : Bool) (state : AdmissionState φ) : Reply φ τ :=
  match admissionFromState config check state with
  | none => .incomplete state.statementID
  | some admission => .handed admission consumed

/-- The active state of the statement the query names. -/
def takeActive : Option (AdmissionState φ) :=
  entry.active.filter fun state => state.statementID == trimSpace queryID

def onQueryInputCompleteStrict (consumed : Bool) (entry : Entry φ τ) : Reply φ τ × Entry φ τ :=
  if !config.enabled || !config.hasConsumer then
    (.passed, entry)
  else
    match takeActive queryID entry with
    | none => (.passed, entry)
    | some state =>
      (handOver config check consumed { state with complete := true },
        { entry with active := none })

def onQueryInputComplete : Reply φ τ × Entry φ τ :=
  if !config.enabled || config.hasConsumer then
    (.passed, entry)
  else
    match takeActive queryID entry with
    | none => (.passed, entry)
    | some state =>
      match entry.pending with
      | some _ => (.passed, { entry with active := none })
      | none =>
        (.parked, { entry with
            active := none
            pending := some { state with complete := true } })

def onQueryAbort : Entry φ τ :=
  if !config.enabled then entry else abortQuery queryID entry

def consumeAdmission (entry : Entry φ τ) : Reply φ τ × Entry φ τ :=
  match entry.pending with
  | none => (.notFound, entry)
  | some state => (handOver config check true state, { entry with pending := none })

/-- `rewriters.LoadOrStore` with a Rewriter built from the session. -/
def loadOrStoreRewriter (session : Nat) (entry : Entry φ τ) : Reply φ τ × Entry φ τ :=
  match entry.rewriter with
  | some built => (.rewriter (some built), entry)
  | none => (.rewriter (some session), { entry with rewriter := some session })

def evict : Entry φ τ := { entry with rewriter := none, snapshot := none }

/-- `OnClose` of both plugins. -/
def onClose : Entry φ τ := evict { entry with active := none, pending := none }

def runHook (session : Nat) (hook : Hook φ τ) (entry : Entry φ τ) : Reply φ τ × Entry φ τ :=
  match hook with
  | .connect | .connectRejected => (.passed, entry)
  | .query queryID checks => onQuery config queryID checks entry
  | .clientData queryID raw canceled => onClientDataStrict config queryID raw canceled entry
  | .readLimit => (.limit (clientDataReadLimit config entry), entry)
  | .inputCompleteStrict queryID check consumed =>
    onQueryInputCompleteStrict config queryID check consumed entry
  | .inputComplete queryID => onQueryInputComplete config queryID entry
  | .abort queryID => (.passed, onQueryAbort config queryID entry)
  | .consume check => consumeAdmission config check entry
  | .rewriterLoad => (.rewriter entry.rewriter, entry)
  | .rewriterStore => loadOrStoreRewriter session entry
  | .snapshotStore snapshot => (.passed, { entry with snapshot := some snapshot })
  | .snapshotLoad => (.snapshot entry.snapshot, entry)
  | .close => (.passed, onClose entry)
  | .disconnect => (.passed, evict entry)

/--
Where `handle` is with a session.  The relay runs between `OnConnect` and
`OnClose`, and `OnDisconnect` is the last hook of all.
-/
inductive Phase where
  | accepted
  | rejected
  | relaying
  | closed
  | gone
  deriving DecidableEq

/-- The hooks `handle` and the relay may call for a session, and when. -/
def permit (phase : Phase) (hook : Hook φ τ) : Option Phase :=
  match phase, hook with
  | .accepted, .connect => some .relaying
  | .accepted, .connectRejected => some .rejected
  | .rejected, .disconnect => some .gone
  | .closed, .disconnect => some .gone
  | .relaying, .close => some .closed
  | .relaying, .connect => none
  | .relaying, .connectRejected => none
  | .relaying, .disconnect => none
  | .relaying, _ => some .relaying
  | _, _ => none

def machine (config : Config) : KeyedSlots.Machine (Entry φ τ) Phase (Hook φ τ) (Reply φ τ) where
  empty := .empty
  born := .accepted
  left := fun phase => phase == .gone
  permit := permit
  act := runHook config

/-- Every server counts its sessions itself, with an `atomic.Int64`. -/
structure World (φ τ : Type) where
  nextID : Nat → Int64
  chain : KeyedSlots.World (Entry φ τ) Int64 Phase (Hook φ τ) (Reply φ τ)

def World.initial : World φ τ :=
  { nextID := fun _ => 0
    chain := { owners := [], store := fun _ => .empty, history := [] } }

/-- What clients may do. -/
inductive Step (φ τ : Type) where
  | accept (server : Nat)
  | hook (session : Nat) (hook : Hook φ τ)

def advance (nextID : Nat → Int64) (server : Nat) : Nat → Int64 :=
  Function.update nextID server (nextID server + 1)

def World.step (config : Config) (world : World φ τ) (step : Step φ τ) : World φ τ :=
  match step with
  | .accept server =>
    { nextID := advance world.nextID server
      chain := world.chain.enter (machine config) (world.nextID server + 1) }
  | .hook session hook => { world with chain := world.chain.act (machine config) session hook }

variable (steps : List (Step φ τ))

def run : World φ τ := steps.foldl (World.step config) .initial

/-- The same process with plugins of its own for every session. -/
structure SeparateWorld (φ τ : Type) where
  nextID : Nat → Int64
  chain : KeyedSlots.PrivateWorld (Entry φ τ) Int64 Phase (Hook φ τ) (Reply φ τ)

def SeparateWorld.initial : SeparateWorld φ τ :=
  { nextID := fun _ => 0
    chain := { owners := [], slots := fun _ => .empty, history := [] } }

def SeparateWorld.step (config : Config) (world : SeparateWorld φ τ)
    (step : Step φ τ) : SeparateWorld φ τ :=
  match step with
  | .accept server =>
    { nextID := advance world.nextID server
      chain := world.chain.enter (machine config) (world.nextID server + 1) }
  | .hook session hook => { world with chain := world.chain.act (machine config) session hook }

def runSeparate : SeparateWorld φ τ :=
  steps.foldl (SeparateWorld.step config) .initial

/-- The id an accepted connection gets is that of no connected session. -/
def IdFree (world : World φ τ) (step : Step φ τ) : Prop :=
  match step with
  | .accept server =>
    KeyedSlots.KeyFree (@machine φ τ config) (world.nextID server + 1) world.chain.owners
  | .hook _ _ => True

def IdsFree : Prop :=
  ∀ before step after, steps = before ++ step :: after → IdFree config (run config before) step

end HouseGate.PluginSessions
