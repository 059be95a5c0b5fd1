import HouseGate.PluginSessions

namespace HouseGate.PluginSessions

open DecimalText KeyedSlots World List

/-!
# Isolation of sessions

While an id is never given out twice at a time, the shared maps are as good as
maps of each session's own: hooks get the answers they would get there, and an
admission carries what its own session sent.
-/

variable {φ τ : Type}

abbrev Event (φ τ : Type) := KeyedSlots.Event (Hook φ τ) (Reply φ τ)

/-! ## What a session sent -/

/-- The Data bytes of a session since its last admitted INSERT. -/
def openPayload (session : Nat) : List (Event φ τ) → Bytes
  | [] => []
  | event :: earlier =>
    if event.owner ≠ session then
      openPayload session earlier
    else
      match event.action, event.reply with
      | .query _ _, .staged _ => []
      | .clientData _ raw _, .passed => openPayload session earlier ++ raw
      | _, _ => openPayload session earlier

/-- The Data bytes of the INSERT whose admission was last set aside. -/
def parkedPayload (session : Nat) : List (Event φ τ) → Bytes
  | [] => []
  | event :: earlier =>
    if event.owner ≠ session then
      parkedPayload session earlier
    else
      match event.reply with
      | .parked => openPayload session earlier
      | _ => parkedPayload session earlier

/-- What a hook that hands an admission over has to hand over. -/
def capturedPayload (session : Nat) (hook : Hook φ τ) (earlier : List (Event φ τ)) : Bytes :=
  match hook with
  | .consume _ => parkedPayload session earlier
  | _ => openPayload session earlier

/-- A reply that is made of its own session's input. -/
structure OwnEvent (event : Event φ τ) (earlier : List (Event φ τ)) : Prop where
  payload : ∀ admission consumed, event.reply = .handed admission consumed →
      admission.payload = capturedPayload event.owner event.action earlier
  rewriter : ∀ built, event.reply = .rewriter (some built) → built = event.owner

def stepSession (step : Step φ τ) : Option Nat :=
  match step with
  | .accept _ => none
  | .hook session _ => some session

/--
A run in which the plugins keep sessions apart: every hook answers as it does
with plugins of the session's own, no step touches what the maps hold for a
connected session other than the one that makes it, and what is handed over or
used for a session comes from that session.
-/
structure Isolated (config : Config) (steps : List (Step φ τ)) : Prop where
  answers : (run config steps).chain.history = (runSeparate config steps).chain.history
  untouched : ∀ before step after (session : Nat) (owner : Owner Int64 Phase),
      steps = before ++ step :: after →
      (run config before).chain.owners[session]? = some owner →
      owner.life ≠ .gone →
      stepSession step ≠ some session →
      (run config (before ++ [step])).chain.store owner.key =
        (run config before).chain.store owner.key
  own : ∀ later event earlier,
      (run config steps).chain.history = later ++ event :: earlier → OwnEvent event earlier

/-! ## One hook -/

/-- What the plugins of one session hold against what the session did. -/
structure Accounts
    (config : Config)
    (session : Nat)
    (history : List (Event φ τ))
    (entry : Entry φ τ) : Prop where
  active : ∀ state, entry.active = some state →
      config.enabled = true ∧ state.payload = openPayload session history
  pending : ∀ state, entry.pending = some state → state.payload = parkedPayload session history
  rewriter : ∀ built, entry.rewriter = some built → built = session

variable {session : Nat} {event : Event φ τ} {earlier : List (Event φ τ)}
  (different : event.owner ≠ session)

include different

@[simp]
theorem openPayload_other :
    openPayload session (event :: earlier) = openPayload session earlier := by
  simp [openPayload, different]

@[simp]
theorem parkedPayload_other :
    parkedPayload session (event :: earlier) = parkedPayload session earlier := by
  simp [parkedPayload, different]

variable {config : Config}

theorem accounts_other {entry : Entry φ τ} (accounts : Accounts config session earlier entry) :
    Accounts config session (event :: earlier) entry := by
  constructor
  · rw [openPayload_other different]
    exact accounts.active
  · rw [parkedPayload_other different]
    exact accounts.pending
  · exact accounts.rewriter

omit different

variable {consumed : Bool}

/-- An admission carries the payload of the state it was made from. -/
theorem handOver_payload
    {check : φ → Bytes → Option φ}
    {answered : Bool}
    {state : AdmissionState φ}
    {admission : Admission φ}
    (handed : (handOver config check consumed state : Reply φ τ) = .handed admission answered) :
    admission.payload = state.payload := by
  unfold handOver admissionFromState at handed
  split at handed
  · cases handed
  rename_i made found
  cases handed
  split at found
  · cases found
  split at found
  · cases found
  split at found
  · cases found
  · split at found
    · cases found
    · cases found
      rfl

theorem handOver_cases
    (config : Config)
    (check : φ → Bytes → Option φ)
    (consumed : Bool)
    (state : AdmissionState φ) :
    (handOver config check consumed state : Reply φ τ) = .incomplete state.statementID ∨
      ∃ admission,
        (handOver config check consumed state : Reply φ τ) = .handed admission consumed := by
  unfold handOver
  cases admissionFromState config check state with
  | none => exact .inl rfl
  | some admission => exact .inr ⟨admission, rfl⟩

/-- An entry that holds nothing another did not hold. -/
structure Within (entry original : Entry φ τ) : Prop where
  active : ∀ state, entry.active = some state → original.active = some state
  pending : ∀ state, entry.pending = some state → original.pending = some state
  rewriter : ∀ built, entry.rewriter = some built → original.rewriter = some built

theorem within_refl (entry : Entry φ τ) : Within entry entry :=
  ⟨fun _ held => held, fun _ held => held, fun _ held => held⟩

theorem within_abortQuery (queryID : Bytes)
    (entry : Entry φ τ) : Within (abortQuery queryID entry) entry := by
  constructor
  · intro state held
    exact (Option.filter_eq_some_iff.mp held).1
  · intro state held
    exact (Option.filter_eq_some_iff.mp held).1
  · intro built held
    exact held

/-- A reply that changes no payload and hands nothing over. -/
def plain (hook : Hook φ τ) (reply : Reply φ τ) : Bool :=
  match hook, reply with
  | .clientData _ _ _, .passed => false
  | _, .staged _ | _, .parked | _, .handed _ _ | _, .rewriter (some _) => false
  | _, _ => true

theorem openPayload_plain
    {hook : Hook φ τ}
    {reply : Reply φ τ}
    (isPlain : plain hook reply = true)
    (session : Nat)
    (earlier : List (Event φ τ)) :
    openPayload session (⟨session, hook, reply⟩ :: earlier) = openPayload session earlier := by
  cases hook <;> cases reply <;> simp_all [plain, openPayload]

theorem parkedPayload_of_not_parked
    {hook : Hook φ τ}
    {reply : Reply φ τ}
    (notParked : reply ≠ .parked)
    (session : Nat)
    (earlier : List (Event φ τ)) :
    parkedPayload session (⟨session, hook, reply⟩ :: earlier) = parkedPayload session earlier := by
  cases reply <;> simp_all [parkedPayload]

/-- The outcome of a hook is in order for the session that called it. -/
structure Accounted
    (config : Config)
    (session : Nat)
    (hook : Hook φ τ)
    (history : List (Event φ τ))
    (outcome : Reply φ τ × Entry φ τ) : Prop where
  event : OwnEvent ⟨session, hook, outcome.1⟩ history
  entry : Accounts config session (⟨session, hook, outcome.1⟩ :: history) outcome.2

variable {built : Option Nat}

section Hooks

variable {history : List (Event φ τ)} {entry : Entry φ τ}

theorem takeActive_eq_some
    {queryID : Bytes}
    {state : AdmissionState φ}
    (taken : takeActive queryID entry = some state) :
    entry.active = some state :=
  (Option.filter_eq_some_iff.mp taken).1

variable {hook : Hook φ τ}

theorem openPayload_handed {admission : Admission φ} : openPayload session
    (⟨session, hook, .handed admission consumed⟩ :: history) = openPayload session history := by
  cases hook <;> simp [openPayload]

theorem openPayload_rewriter : openPayload session (⟨session, hook, .rewriter built⟩ :: history) =
    openPayload session history := by
  cases hook <;> simp [openPayload]

variable (accounts : Accounts config session history entry)

include accounts

variable {later : Entry φ τ}

theorem accounted_plain
    {reply : Reply φ τ}
    (isPlain : plain hook reply = true)
    (within : Within later entry) :
    Accounted config session hook history (reply, later) := by
  have notParked : reply ≠ .parked := by
    rintro rfl
    cases hook <;> cases isPlain
  refine ⟨⟨?_, ?_⟩, ⟨?_, ?_, ?_⟩⟩
  · rintro admission consumed rfl
    cases hook <;> cases isPlain
  · rintro built rfl
    cases hook <;> cases isPlain
  · intro state held
    rw [openPayload_plain isPlain]
    exact accounts.active state (within.active state held)
  · intro state held
    rw [parkedPayload_of_not_parked notParked]
    exact accounts.pending state (within.pending state held)
  · intro built held
    exact accounts.rewriter built (within.rewriter built held)

variable (queryID : Bytes)

theorem accounted_onQuery (checks : QueryChecks φ) :
    Accounted config session (.query queryID checks) history
      (onQuery config queryID checks entry) := by
  unfold onQuery
  split
  · exact accounted_plain accounts rfl (within_refl entry)
  rename_i enabled
  split
  · exact accounted_plain accounts rfl (within_refl entry)
  · exact accounted_plain accounts rfl (within_refl entry)
  split
  · exact accounted_plain accounts rfl (within_refl entry)
  · exact accounted_plain accounts rfl (within_refl entry)
  -- A staged INSERT starts with no payload.
  refine ⟨⟨nofun, nofun⟩, ⟨?_, ?_, ?_⟩⟩
  · intro state held
    cases held
    exact ⟨by simpa using enabled, by simp [openPayload]⟩
  · intro state held
    rw [parkedPayload_of_not_parked]
    · exact accounts.pending state held
    · nofun
  · exact accounts.rewriter

theorem accounted_onClientDataStrict (queryID raw : Bytes) (canceled : Bool) :
    Accounted config session (.clientData queryID raw canceled) history
      (onClientDataStrict config queryID raw canceled entry) := by
  -- A packet that is passed on counts, so its bytes have to be kept.
  have passedOn : ∀ later : Entry φ τ, (∀ state, later.active = some state →
      config.enabled = true ∧ state.payload = openPayload session history ++ raw) →
        later.pending = entry.pending →
        later.rewriter = entry.rewriter →
        Accounted config session (.clientData queryID raw canceled) history (.passed, later) := by
    intro later active pending rewriter
    refine ⟨⟨nofun, nofun⟩, ⟨?_, ?_, ?_⟩⟩
    · intro state held
      simpa [openPayload] using active state held
    · intro state held
      rw [parkedPayload_of_not_parked]
      · exact accounts.pending state (pending ▸ held)
      · nofun
    · intro built held
      exact accounts.rewriter built (rewriter ▸ held)
  unfold onClientDataStrict
  split
  · rename_i ignored
    apply passedOn entry _ rfl rfl
    intro state held
    obtain ⟨enabled, payload⟩ := accounts.active state held
    have emptyRaw : raw = [] := by
      simpa [enabled] using ignored
    rw [emptyRaw, append_nil]
    exact ⟨enabled, payload⟩
  · split
    · exact accounted_plain accounts rfl (within_abortQuery queryID entry)
    split
    · rename_i inactive
      apply passedOn entry _ rfl rfl
      intro state held
      rw [inactive] at held
      cases held
    · rename_i state active
      obtain ⟨enabled, payload⟩ := accounts.active state active
      dsimp only
      split
      · exact accounted_plain accounts rfl ⟨nofun, fun _ held => held, fun _ held => held⟩
      · refine passedOn _ ?_ rfl rfl
        intro later held
        cases held
        exact ⟨enabled, by rw [payload]⟩

/-- A state that is handed over leaves the maps. -/
theorem accounted_handOver {check : φ → Bytes → Option φ} {state : AdmissionState φ}
    (payload : state.payload = capturedPayload session hook history) (within : Within later entry) :
    Accounted config session hook history (handOver config check consumed state, later) := by
  rcases @handOver_cases φ τ config check consumed state with
    incomplete | ⟨admission, handed⟩
  · rw [incomplete]
    apply accounted_plain accounts _ within
    cases hook <;> rfl
  have samePayload := handOver_payload handed
  rw [handed]
  refine ⟨⟨?_, nofun⟩, ⟨?_, ?_, ?_⟩⟩
  · rintro other answered same
    cases same
    exact samePayload.trans payload
  · intro held isHeld
    rw [openPayload_handed]
    exact accounts.active held (within.active held isHeld)
  · intro held isHeld
    rw [parkedPayload_of_not_parked]
    · exact accounts.pending held (within.pending held isHeld)
    · nofun
  · intro built held
    exact accounts.rewriter built (within.rewriter built held)

variable (check : φ → Bytes → Option φ)

theorem accounted_onQueryInputCompleteStrict (consumed : Bool) :
    Accounted config session (.inputCompleteStrict queryID check consumed) history
      (onQueryInputCompleteStrict config queryID check consumed entry) := by
  unfold onQueryInputCompleteStrict
  split
  · exact accounted_plain accounts rfl (within_refl entry)
  split
  · exact accounted_plain accounts rfl (within_refl entry)
  · rename_i state taken
    exact accounted_handOver accounts (accounts.active state (takeActive_eq_some taken)).2
      ⟨nofun, fun _ held => held, fun _ held => held⟩

theorem accounted_onQueryInputComplete :
    Accounted config session (.inputComplete queryID) history
      (onQueryInputComplete config queryID entry) := by
  unfold onQueryInputComplete
  split
  · exact accounted_plain accounts rfl (within_refl entry)
  split
  · exact accounted_plain accounts rfl (within_refl entry)
  rename_i state taken
  split
  · exact accounted_plain accounts rfl ⟨nofun, fun _ held => held, fun _ held => held⟩
  · refine ⟨⟨nofun, nofun⟩, ⟨nofun, ?_, accounts.rewriter⟩⟩
    intro parked held
    cases held
    simpa [parkedPayload] using (accounts.active state (takeActive_eq_some taken)).2

theorem accounted_consumeAdmission :
    Accounted config session (.consume check) history (consumeAdmission config check entry) := by
  unfold consumeAdmission
  split
  · exact accounted_plain accounts rfl (within_refl entry)
  · rename_i state pending
    exact accounted_handOver accounts (accounts.pending state pending)
      ⟨fun _ held => held, nofun, fun _ held => held⟩

/-- A Rewriter that was built from the session itself. -/
theorem accounted_rewriter (own : ∀ source, built = some source → source = session)
    (active : later.active = entry.active) (pending : later.pending = entry.pending)
    (rewriter : later.rewriter = built ∨ later.rewriter = none) :
    Accounted config session hook history (.rewriter built, later) := by
  refine ⟨⟨nofun, ?_⟩, ⟨?_, ?_, ?_⟩⟩
  · rintro source same
    cases same
    exact own source rfl
  · rw [active, openPayload_rewriter]
    exact accounts.active
  · rw [pending, parkedPayload_of_not_parked]
    · exact accounts.pending
    · nofun
  intro source held
  rcases rewriter with same | gone
  · exact own source (same.symm.trans held)
  · rw [gone] at held
    cases held

theorem accounted_loadOrStoreRewriter :
    Accounted config session .rewriterStore history (loadOrStoreRewriter session entry) := by
  unfold loadOrStoreRewriter
  split
  · rename_i built cached
    apply accounted_rewriter accounts _ rfl rfl (.inl cached)
    intro source same
    cases same
    exact accounts.rewriter built cached
  · refine accounted_rewriter accounts ?_ rfl rfl (.inl rfl)
    intro source same
    cases same
    rfl

/-- One hook of a session with plugins of its own. -/
theorem accounted_runHook (hook : Hook φ τ) :
    Accounted config session hook history (runHook config session hook entry) := by
  cases hook with
  | connect | connectRejected | readLimit | snapshotLoad =>
    exact accounted_plain accounts rfl (within_refl entry)
  | query queryID checks => exact accounted_onQuery accounts queryID checks
  | clientData queryID raw canceled =>
    exact accounted_onClientDataStrict accounts queryID raw canceled
  | inputCompleteStrict queryID check consumed =>
    exact accounted_onQueryInputCompleteStrict accounts queryID check consumed
  | inputComplete queryID => exact accounted_onQueryInputComplete accounts queryID
  | abort queryID =>
    apply accounted_plain accounts rfl
    unfold onQueryAbort
    split
    · exact within_refl entry
    · exact within_abortQuery queryID entry
  | consume check => exact accounted_consumeAdmission accounts check
  | rewriterLoad => exact accounted_rewriter accounts accounts.rewriter rfl rfl (.inl rfl)
  | rewriterStore => exact accounted_loadOrStoreRewriter accounts
  | snapshotStore snapshot =>
    exact accounted_plain accounts rfl ⟨fun _ held => held, fun _ held => held, fun _ held => held⟩
  | close => exact accounted_plain accounts rfl ⟨nofun, nofun, nofun⟩
  | disconnect => exact accounted_plain accounts rfl ⟨fun _ held => held, fun _ held => held, nofun⟩

end Hooks

/-! ## Whole runs -/

/-- Outside the relay the plugins hold nothing for a session. -/
def Coherent (phase : Phase) (entry : Entry φ τ) : Prop := phase ≠ .relaying → entry = .empty

theorem coherent_permit
    {phase later : Phase}
    {hook : Hook φ τ}
    {entry : Entry φ τ}
    (session : Nat)
    (coherent : Coherent phase entry)
    (permitted : permit phase hook = some later) :
    Coherent later (runHook config session hook entry).2 := by
  intro notRelaying
  unfold permit at permitted
  split at permitted
  case h_1 =>
    cases permitted
    exact (notRelaying rfl).elim
  case h_2 => exact coherent nofun
  case h_3 => simp [runHook, coherent nofun, evict, Entry.empty]
  case h_4 => simp [runHook, coherent nofun, evict, Entry.empty]
  case h_5 => simp [runHook, onClose, evict, Entry.empty]
  case h_9 =>
    cases permitted
    exact (notRelaying rfl).elim
  all_goals
    cases permitted

theorem tidy_machine (config : Config) : Tidy (@machine φ τ config) Coherent where
  born := fun _ => rfl
  act := fun _ _ session _ _ coherent permitted => coherent_permit session coherent permitted
  left := by
    intro phase entry coherent gone
    apply coherent
    rintro rfl
    cases gone
  silent := by
    intro phase hook gone
    have isGone : phase = .gone := by
      simpa [machine] using gone
    subst isGone
    rfl

theorem run_append
    (config : Config)
    (before : List (Step φ τ))
    (step : Step φ τ) :
    run config (before ++ [step]) = (run config before).step config step := by
  simp [run]

theorem runSeparate_append
    (config : Config)
    (before : List (Step φ τ))
    (step : Step φ τ) :
    runSeparate config (before ++ [step]) = (runSeparate config before).step config step := by
  simp [runSeparate]

theorem idsFree_init {before after : List (Step φ τ)} (free : IdsFree config (before ++ after)) :
    IdsFree config before := by
  intro first step rest split
  apply free first step (rest ++ after)
  simp [split]

/-- The shared maps and the separate ones after the same steps. -/
structure Matched
    (config : Config)
    (shared : World φ τ)
    (separate : SeparateWorld φ τ) : Prop where
  nextID : shared.nextID = separate.nextID
  chain : Agree (machine config) Coherent shared.chain separate.chain

variable {step : Step φ τ}

theorem matched_step
    {shared : World φ τ}
    {separate : SeparateWorld φ τ}
    (matched : Matched config shared separate)
    (free : IdFree config shared step) :
    Matched config (shared.step config step) (separate.step config step) := by
  cases step with
  | accept server =>
    refine ⟨?_, ?_⟩
    · simp only [step, SeparateWorld.step, matched.nextID]
    · simp only [step, SeparateWorld.step, ← matched.nextID]
      exact agree_enter (tidy_machine config) matched.chain free
  | hook session hook =>
    exact ⟨matched.nextID, agree_act session hook (tidy_machine config) matched.chain⟩

theorem matched_initial (config : Config) :
    Matched config (initial : World φ τ) SeparateWorld.initial := by
  refine ⟨rfl, ?_⟩
  constructor <;> simp [initial, SeparateWorld.initial, machine]

theorem matched_run {steps : List (Step φ τ)} (free : IdsFree config steps) :
    Matched config (run config steps) (runSeparate config steps) := by
  induction steps using reverseRecOn with
  | nil => exact matched_initial config
  | append_singleton before step induction =>
    rw [run_append, runSeparate_append]
    apply matched_step (induction (idsFree_init free))
    exact free before step [] rfl

/-- What holds of separate plugins whatever the sessions do. -/
structure Kept (config : Config) (world : SeparateWorld φ τ) : Prop where
  accounts : ∀ session, Accounts config session world.chain.history (world.chain.slots session)
  own :
    ∀ later event earlier, world.chain.history = later ++ event :: earlier → OwnEvent event earlier

theorem kept_hook
    {world : SeparateWorld φ τ}
    (session : Nat)
    (hook : Hook φ τ)
    (kept : Kept config world) :
    Kept config (world.step config (.hook session hook)) := by
  simp only [SeparateWorld.step, KeyedSlots.PrivateWorld.act]
  split
  · exact kept
  split
  · exact kept
  have accounted := accounted_runHook (kept.accounts session) hook
  constructor
  · intro other
    by_cases same : other = session
    · subst same
      simpa [machine] using accounted.entry
    · simpa [machine, same] using accounts_other (Ne.symm same) (kept.accounts other)
  · intro later event earlier split
    cases later with
    | nil =>
      cases split
      exact accounted.event
    | cons newest rest => exact kept.own rest event earlier (cons.inj split).2

theorem kept_runSeparate (config : Config) (steps : List (Step φ τ)) :
    Kept config (runSeparate config steps) := by
  induction steps using reverseRecOn with
  | nil =>
    constructor
    · intro session
      exact ⟨nofun, nofun, nofun⟩
    · intro later event earlier split
      cases later <;> cases split
  | append_singleton before step induction =>
    rw [runSeparate_append]
    cases step with
    | accept server => exact ⟨induction.accounts, induction.own⟩
    | hook session hook => exact kept_hook session hook induction

/-- A step leaves the entry of every other connected session alone. -/
theorem untouched_step
    {shared : World φ τ}
    {separate : SeparateWorld φ τ}
    {owner : Owner Int64 Phase}
    (matched : Matched config shared separate)
    (listed : shared.chain.owners[session]? = some owner)
    (present : owner.life ≠ .gone)
    (other : stepSession step ≠ some session) :
    (shared.step config step).chain.store owner.key = shared.chain.store owner.key := by
  cases step with
  | accept server => rfl
  | hook actor hook =>
    have different : actor ≠ session := by
      rintro rfl
      exact other rfl
    simp only [step, World.act]
    split
    · rfl
    rename_i acting actingListed
    split
    · rfl
    rename_i later permitted
    have actingPresent := (tidy_machine config).present permitted
    have differentKey : owner.key ≠ acting.key := by
      intro same
      apply different
      exact matched.chain.distinct actor session acting owner actingListed listed actingPresent
        (by simpa [machine] using present) same.symm
    simp [differentKey]

/-! ## Isolation -/

/-- While no connection takes the id of a connected session, sessions are apart. -/
theorem sessions_isolated_while_ids_free
    (config : Config)
    (steps : List (Step φ τ))
    (free : IdsFree config steps) :
    Isolated config steps := by
  have matched := matched_run free
  constructor
  · exact matched.chain.history
  · intro before step after session owner split listed present other
    have freeBefore : IdsFree config before := by
      apply @idsFree_init _ _ _ before (step :: after)
      rw [← split]
      exact free
    rw [run_append]
    exact untouched_step (matched_run freeBefore) listed present other
  · intro later event earlier split
    rw [matched.chain.history] at split
    exact (kept_runSeparate config steps).own later event earlier split

/-- A run grows by one step that takes a free id. -/
theorem idsFree_append {before : List (Step φ τ)} (free : IdsFree config before)
    (stepFree : IdFree config (run config before) step) :
    IdsFree config (before ++ [step]) := by
  intro first other rest split
  cases rest using reverseRecOn with
  | nil =>
    obtain ⟨rfl, same⟩ := append_inj' split rfl
    cases same
    exact stepFree
  | append_singleton rest final =>
    apply free first other rest
    have shorter : before ++ [step] = (first ++ other :: rest) ++ [final] := by
      simpa using split
    exact (append_inj' shorter rfl).1

/-- Hooks take no ids. -/
theorem idsFree_hooks
    {before : List (Step φ τ)}
    (free : IdsFree config before)
    (hooks : List (Nat × Hook φ τ)) :
    IdsFree config (before ++ hooks.map fun called => .hook called.1 called.2) := by
  induction hooks using reverseRecOn with
  | nil => simpa using free
  | append_singleton hooks called inductionHypothesis =>
    rw [map_append, ← append_assoc]
    exact idsFree_append inductionHypothesis trivial

/-- A plugin that hands every completed INSERT to its consumer. -/
def stagingConfig : Config := { enabled := true, hasConsumer := true, maxPayload := 1024 }

/-- The first session of a server stages an INSERT. -/
def firstHooks : List (Nat × Hook Unit Unit) :=
  [(0, .connect), (0, .rewriterStore), (0, .query [55] (.insert ()))]

/-- Both sessions send rows, and complete their INSERTs in turn. -/
def bothHooks : List (Nat × Hook Unit Unit) :=
  [(1, .connect), (1, .query [56] (.insert ())), (0, .clientData [55] [1, 2, 3] false),
    (1, .rewriterStore), (1, .clientData [56] [4] false),
    (1, .inputCompleteStrict [56] (fun facts _ => some facts) true), (1, .close),
    (1, .disconnect), (0, .inputCompleteStrict [55] (fun facts _ => some facts) true)]

/-- The steps of the two sessions. -/
def oneServerSteps : List (Step Unit Unit) :=
  (([.accept 0] ++ firstHooks.map fun called => .hook called.1 called.2) ++ [.accept 0]) ++
    bothHooks.map fun called => .hook called.1 called.2

/-- Two sessions of one server keep their INSERTs and their Rewriters apart. -/
theorem sessions_isolated_on_one_server :
    (run stagingConfig oneServerSteps).chain.history.head?.map (·.reply) =
        some (.handed ⟨[55], (), [1, 2, 3], true⟩ true) ∧
      Isolated stagingConfig oneServerSteps := by
  refine ⟨by decide +kernel, sessions_isolated_while_ids_free _ _ ?_⟩
  apply idsFree_hooks
  apply idsFree_append
  · apply idsFree_hooks
    apply @idsFree_append _ _ _ (.accept 0) []
    · intro first step rest split
      cases first <;> cases split
    · intro owner member
      cases member
  · intro owner member sameKey
    cases mem_singleton.mp member
    exact absurd sameKey (by decide)

/--
The first sessions of two servers share id 1.  The INSERT of the one is staged
with its rows withheld from the upstream; the other session only opens and
closes, and the end of the INSERT's input is then answered as if there were
nothing to hand over.
-/
def collidingSteps : List (Step Unit Unit) := [ .accept 0 , .hook 0 .connect
  , .hook 0 (.query [55] (.insert ()))
  , .hook 0 (.clientData [55] [1, 2, 3] false)
  , .accept 1
  , .hook 1 .connect
  , .hook 1 .close
  , .hook 1 .disconnect
  , .hook 0 (.inputCompleteStrict [55] (fun facts _ => some facts) true) ]

/-- Sessions of two servers share a connection id. -/
theorem staged_rows_lost_to_other_server :
    ((run stagingConfig collidingSteps).chain.history.head?.map (·.reply)) = some .passed ∧
      ((runSeparate stagingConfig collidingSteps).chain.history.head?.map
        (·.reply)) = some (.handed ⟨[55], (), [1, 2, 3], true⟩ true) ∧
      ¬ Isolated stagingConfig collidingSteps := by
  have shared :
      ((run stagingConfig collidingSteps).chain.history.head?.map (·.reply)) = some .passed := by
    decide +kernel
  have separate : ((runSeparate stagingConfig collidingSteps).chain.history.head?.map
      (·.reply)) = some (.handed ⟨[55], (), [1, 2, 3], true⟩ true) := by
    decide +kernel
  refine ⟨shared, separate, ?_⟩
  intro isolated
  rw [isolated.answers, separate] at shared
  cases shared

end HouseGate.PluginSessions
