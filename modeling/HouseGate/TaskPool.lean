import Mathlib.Algebra.Order.BigOperators.Group.List
import Mathlib.Algebra.Order.Group.Nat
import Mathlib.Algebra.GroupWithZero.Nat

namespace HouseGate.TaskPool

open List

/-!
# Calls that run side by side

A call is a list of atomic sections that it still has to run.  A section
changes the shared state, says which sections come next and leaves events in a
history.  Any number of calls run at once; a scheduler picks the next section.

Three rules carry a property from single sections to every run: an invariant
with an assertion for each section that waits to run, a balance of what was
issued against what was settled, and a cover of what is open by the sections
and the state that still refer to it.
-/

/-- What one section leaves behind; the events are newest first. -/
structure Outcome (σ op ε : Type) where
  shared : σ
  next : List op
  events : List ε

/--
The calls of a program.  `exec` gets the place of its call in the pool and an
answer of the environment.  `restart` says what a crash leaves, if the program
survives one.
-/
structure Machine (σ κ χ op ι ε : Type) where
  start : κ → χ → op
  called : κ → χ → ε
  exec : Nat → ι → κ → op → σ → Outcome σ op ε
  restart : σ → Option σ

/-- The sections that a call still has to run. -/
structure Task (κ op : Type) where
  owner : κ
  todo : List op

/-- The history is newest first. -/
structure World (σ κ op ε : Type) where
  shared : σ
  tasks : List (Task κ op)
  history : List ε

/-- A new call, a step of a call, or a restart. -/
inductive Input (κ χ ι : Type) where
  | call (owner : κ) (hook : χ)
  | advance (place : Nat) (answer : ι)
  | restart

variable {σ κ χ op ι ε : Type}

/-- One section of the call at a place, or nothing if it has none left. -/
def advance (machine : Machine σ κ χ op ι ε) (place : Nat) (answer : ι)
    (world : World σ κ op ε) : World σ κ op ε :=
  match world.tasks[place]? with
  | some ⟨owner, first :: rest⟩ =>
    let outcome := machine.exec place answer owner first world.shared
    { shared := outcome.shared
      tasks := world.tasks.set place ⟨owner, outcome.next ++ rest⟩
      history := outcome.events ++ world.history }
  | _ => world

def step (machine : Machine σ κ χ op ι ε) (world : World σ κ op ε) : Input κ χ ι → World σ κ op ε
  | .call owner hook =>
    { world with
      tasks := world.tasks ++ [⟨owner, [machine.start owner hook]⟩]
      history := machine.called owner hook :: world.history }
  | .advance place answer => advance machine place answer world
  | .restart =>
    match machine.restart world.shared with
    | some shared => { world with shared := shared, tasks := [] }
    | none => world

def initial (shared : σ) : World σ κ op ε := ⟨shared, [], []⟩

def run (machine : Machine σ κ χ op ι ε) (shared : σ)
    (inputs : List (Input κ χ ι)) : World σ κ op ε :=
  inputs.foldl (step machine) (initial shared)

variable {machine : Machine σ κ χ op ι ε} {shared : σ}

/-- What holds at the start and after each step holds after every run. -/
theorem run_induction {property : World σ κ op ε → Prop} (starts : property (initial shared))
    (steps : ∀ world input, property world → property (step machine world input))
    (inputs : List (Input κ χ ι)) :
    property (run machine shared inputs) := by
  have folded : ∀ world, property world → property (inputs.foldl (step machine) world) := by
    induction inputs with
    | nil =>
      intro world holds
      exact holds
    | cons input inputs inductionHypothesis =>
      intro world holds
      exact inductionHypothesis _ (steps world input holds)
  exact folded _ starts

/-- Either nothing is left to run at a place, or its first section runs. -/
theorem advance_cases
    (machine : Machine σ κ χ op ι ε)
    (place : Nat)
    (answer : ι)
    (world : World σ κ op ε) :
    advance machine place answer world = world ∨ ∃ owner first rest outcome,
        world.tasks[place]? = some ⟨owner, first :: rest⟩ ∧
          machine.exec place answer owner first world.shared = outcome ∧
          advance machine place answer world = ⟨outcome.shared,
              world.tasks.set place ⟨owner, outcome.next ++ rest⟩,
              outcome.events ++ world.history⟩ := by
  unfold advance
  split
  · rename_i owner first rest found
    exact .inr ⟨owner, first, rest, _, found, rfl, rfl⟩
  · exact .inl rfl

/-! ## Assertions -/

/-- An invariant and what holds while a section waits to run. -/
structure Assertions (σ κ op ε : Type) where
  world : σ → List ε → Prop
  task : Nat → κ → op → σ → List ε → Prop

variable (assertions : Assertions σ κ op ε)

/--
Sections keep the assertions: the invariant, those of the sections they lead
to, those that wait behind them in the same call and those of other calls.
-/
structure Assertions.Kept (machine : Machine σ κ χ op ι ε) : Prop where
  calls : ∀ {owner hook shared history}, assertions.world shared history →
      assertions.world shared (machine.called owner hook :: history)
  waits : ∀ {owner hook shared history place other waiting},
      assertions.task place other waiting shared history →
      assertions.task place other waiting shared (machine.called owner hook :: history)
  starts : ∀ {owner hook shared history place}, assertions.world shared history →
      assertions.task place owner (machine.start owner hook) shared
        (machine.called owner hook :: history)
  keeps : ∀ {place answer owner first shared history outcome},
      machine.exec place answer owner first shared = outcome →
      assertions.world shared history →
      assertions.task place owner first shared history →
      assertions.world outcome.shared (outcome.events ++ history)
  follows : ∀ {place answer owner first shared history outcome later},
      machine.exec place answer owner first shared = outcome →
      assertions.world shared history →
      assertions.task place owner first shared history →
      later ∈ outcome.next →
      assertions.task place owner later outcome.shared (outcome.events ++ history)
  rests : ∀ {place answer owner first shared history outcome waiting},
      machine.exec place answer owner first shared = outcome →
      assertions.world shared history →
      assertions.task place owner first shared history →
      assertions.task place owner waiting shared history →
      assertions.task place owner waiting outcome.shared (outcome.events ++ history)
  stable : ∀ {place answer owner first shared history outcome other spectator waiting},
      other ≠ place →
      machine.exec place answer owner first shared = outcome →
      assertions.world shared history →
      assertions.task place owner first shared history →
      assertions.task other spectator waiting shared history →
      assertions.task other spectator waiting outcome.shared (outcome.events ++ history)
  restarts : ∀ {shared history fresh}, machine.restart shared = some fresh →
      assertions.world shared history → assertions.world fresh history

/-- The invariant, and the assertion of every section that waits. -/
structure Assertions.Hold (world : World σ κ op ε) : Prop where
  invariant : assertions.world world.shared world.history
  waiting : ∀ {place task waiting}, world.tasks[place]? = some task →
      waiting ∈ task.todo → assertions.task place task.owner waiting world.shared world.history

namespace Assertions

variable {assertions} {world : World σ κ op ε}
  (kept : assertions.Kept machine)

include kept

theorem Hold.call
    (holds : assertions.Hold world)
    (owner : κ)
    (hook : χ) :
    assertions.Hold (step machine world (.call owner hook)) := by
  refine ⟨kept.calls holds.invariant, ?_⟩
  intro place task waiting found member
  rcases Nat.lt_or_ge place world.tasks.length with inside | outside
  · have old : world.tasks[place]? = some task := by
      simpa [step, getElem?_append_left inside] using found
    exact kept.waits (holds.waiting old member)
  have new : task = ⟨owner, [machine.start owner hook]⟩ := by
    simp only [step, getElem?_append_right outside] at found
    rw [getElem?_singleton] at found
    split at found
    · exact (Option.some.inj found).symm
    · cases found
  subst new
  have same : waiting = machine.start owner hook := by
    simpa using member
  subst same
  exact kept.starts holds.invariant

theorem Hold.advance
    (holds : assertions.Hold world)
    (place : Nat)
    (answer : ι) :
    assertions.Hold (advance machine place answer world) := by
  rcases advance_cases machine place answer world with same | runs
  · rw [same]
    exact holds
  obtain ⟨owner, first, rest, outcome, found, ran, same⟩ := runs
  rw [same]
  have own := holds.waiting found (mem_cons_self)
  refine ⟨kept.keeps ran holds.invariant own, ?_⟩
  intro other task waiting there member
  by_cases here : other = place
  · subst here
    have inside : other < world.tasks.length := (List.getElem?_eq_some_iff.mp found).1
    have updated : task = ⟨owner, outcome.next ++ rest⟩ := by
      simpa [getElem?_set, inside, eq_comm] using there
    subst updated
    rcases mem_append.mp member with next | later
    · exact kept.follows ran holds.invariant own next
    · have old : assertions.task other owner waiting world.shared
          world.history :=
        holds.waiting found (mem_cons_of_mem first later)
      exact kept.rests ran holds.invariant own old
  · have old : world.tasks[other]? = some task := by
      simpa [getElem?_set, Ne.symm here] using there
    exact kept.stable here ran holds.invariant own (holds.waiting old member)

/-- Assertions that sections keep hold in every run. -/
theorem Hold.run
    (starts : assertions.world shared [])
    (inputs : List (Input κ χ ι)) :
    assertions.Hold (run machine shared inputs) := by
  apply run_induction
  · exact ⟨starts, by simp [initial]⟩
  intro world input holds
  cases input with
  | call owner hook => exact holds.call kept owner hook
  | advance place answer => exact holds.advance kept place answer
  | restart =>
    cases survived : machine.restart world.shared with
    | none => simpa [step, survived] using holds
    | some fresh =>
      simp only [step, survived]
      exact ⟨kept.restarts survived holds.invariant, by simp⟩

end Assertions

/-! ## Weights -/

variable [DecidableEq κ]

/-- The weight of the sections that the calls of an owner still have. -/
def load (weight : op → Nat) (owner : κ) (tasks : List (Task κ op)) : Nat := (tasks.map fun task =>
    if task.owner = owner then (task.todo.map weight).sum else 0).sum

variable {weight : op → Nat} {owner : κ}

@[simp] theorem load_nil : load weight owner [] = 0 :=
  rfl

variable {tasks : List (Task κ op)}

theorem load_append {task : Task κ op} : load weight owner (tasks ++ [task]) =
    load weight owner tasks +
      if task.owner = owner then (task.todo.map weight).sum else 0 := by
  simp [load]

/-- An owner whose calls are over has no weight. -/
theorem load_eq_zero (ended : ∀ task ∈ tasks, task.owner = owner → task.todo = []) :
    load weight owner tasks = 0 := by
  apply sum_eq_zero
  rw [forall_mem_map]
  intro task member
  split
  · rename_i same
    simp [ended task member same]
  · rfl

/-- A call that moves on changes the weight of its owner alone. -/
theorem load_set
    {mover : κ}
    {place : Nat}
    {first : op}
    {rest : List op}
    (weight : op → Nat)
    (owner : κ)
    (next : List op)
    (found : tasks[place]? = some ⟨mover, first :: rest⟩) :
    load weight owner (tasks.set place ⟨mover, next ++ rest⟩) +
        (if mover = owner then weight first else 0) =
      load weight owner tasks + (if mover = owner then (next.map weight).sum else 0) := by
  induction tasks generalizing place with
  | nil => simp at found
  | cons task tasks inductionHypothesis =>
    cases place with
    | zero =>
      have same : task = ⟨mover, first :: rest⟩ := by
        simpa using found
      subst same
      simp only [load, set_cons_zero, map_cons, sum_cons, map_append, sum_append]
      split <;> omega
    | succ place =>
      have later := inductionHypothesis (by simpa using found)
      simp only [load, set_cons_succ, map_cons, sum_cons] at later ⊢
      omega

/-- The weight of the events of a history. -/
def tally (weight : ε → Nat) (history : List ε) : Nat := (history.map weight).sum

variable {weight : ε → Nat}

@[simp] theorem tally_nil : tally weight [] = 0 :=
  rfl

@[simp] theorem tally_cons {event : ε} {history : List ε} :
    tally weight (event :: history) = weight event + tally weight history := by
  simp [tally]

@[simp] theorem tally_append {events history : List ε} :
    tally weight (events ++ history) = tally weight events + tally weight history := by
  simp [tally]

section Weights

variable {other : ε → Nat} {history : List ε}

theorem tally_le (lighter : ∀ event ∈ history, weight event ≤ other event) :
    tally weight history ≤ tally other history :=
  sum_le_sum lighter

theorem tally_eq_zero (weightless : ∀ event ∈ history, weight event = 0) :
    tally weight history = 0 :=
  sum_eq_zero (forall_mem_map.mpr weightless)

end Weights

/--
Each section settles, keeps or hands on what its owner was issued.  `holds`
weighs the sections that wait, `kept` the shared state.
-/
structure Balance (machine : Machine σ κ χ op ι ε) (owner : κ) where
  holds : op → Nat
  kept : σ → Nat
  settled : ε → Nat
  issued : ε → Nat

/-- Each section keeps the balance. -/
structure Balance.Kept (balance : Balance machine owner) : Prop where
  starts : ∀ {caller hook}, balance.holds (machine.start caller hook) = 0 ∧
      balance.settled (machine.called caller hook) = 0 ∧
      balance.issued (machine.called caller hook) = 0
  own : ∀ {place answer first shared outcome},
      machine.exec place answer owner first shared = outcome →
      (outcome.next.map balance.holds).sum + balance.kept outcome.shared +
          tally balance.settled outcome.events =
        balance.holds first + balance.kept shared + tally balance.issued outcome.events
  other : ∀ {place answer mover first shared outcome}, mover ≠ owner →
      machine.exec place answer mover first shared = outcome →
      balance.kept outcome.shared = balance.kept shared ∧
        tally balance.settled outcome.events = 0 ∧ tally balance.issued outcome.events = 0
  noRestart : ∀ shared, machine.restart shared = none

def Balance.Balanced (balance : Balance machine owner) (world : World σ κ op ε) : Prop :=
  load balance.holds owner world.tasks + balance.kept world.shared +
      tally balance.settled world.history =
    tally balance.issued world.history

/-- In every run what was issued is held, kept or settled. -/
theorem Balance.Kept.run
    {balance : Balance machine owner}
    (kept : balance.Kept)
    (empty : balance.kept shared = 0)
    (inputs : List (Input κ χ ι)) :
    balance.Balanced (run machine shared inputs) := by
  apply run_induction
  · simp [Balance.Balanced, initial, empty]
  intro world input balanced
  unfold Balance.Balanced at balanced ⊢
  cases input with
  | call caller hook =>
    have nothing : balance.holds (machine.start caller hook) = 0 ∧
        balance.settled (machine.called caller hook) = 0 ∧
        balance.issued (machine.called caller hook) = 0 :=
      kept.starts
    simp only [step, load_append, tally_cons, map_cons, map_nil, sum_singleton, nothing, ite_self]
    omega
  | advance place answer =>
    rcases advance_cases machine place answer world with same | runs
    · simpa [step, same] using balanced
    obtain ⟨mover, first, rest, outcome, found, ran, same⟩ := runs
    simp only [step, same, tally_append]
    have moved := load_set balance.holds owner outcome.next found
    by_cases own : mover = owner
    · subst own
      have conserved := kept.own ran
      simp only [if_true] at moved
      omega
    · obtain ⟨sameKept, noneSettled, noneIssued⟩ := kept.other own ran
      simp only [if_neg own] at moved
      omega
  | restart => simpa [step, kept.noRestart] using balanced

/--
What is open is referred to by a section that waits or by the shared state,
so that it can still be closed.
-/
structure Cover (machine : Machine σ κ χ op ι ε) (owner : κ) where
  refers : op → Nat
  kept : σ → Nat
  opened : σ → Nat

/-- Each section keeps what is open covered. -/
structure Cover.Kept (cover : Cover machine owner) : Prop where
  own : ∀ {place answer first shared outcome},
      machine.exec place answer owner first shared = outcome →
      cover.opened outcome.shared = 0 ∨ cover.opened outcome.shared + cover.refers first +
          cover.kept shared ≤
          cover.opened shared + (outcome.next.map cover.refers).sum + cover.kept outcome.shared
  other : ∀ {place answer mover first shared outcome}, mover ≠ owner →
      machine.exec place answer mover first shared = outcome →
      cover.opened outcome.shared ≤ cover.opened shared ∧
        cover.kept outcome.shared = cover.kept shared
  noRestart : ∀ shared, machine.restart shared = none

def Cover.Covered (cover : Cover machine owner) (world : World σ κ op ε) : Prop :=
  cover.opened world.shared ≤ load cover.refers owner world.tasks + cover.kept world.shared

/-- In every run what is open is referred to. -/
theorem Cover.Kept.run
    {cover : Cover machine owner}
    (kept : cover.Kept)
    (empty : cover.opened shared = 0)
    (inputs : List (Input κ χ ι)) :
    cover.Covered (run machine shared inputs) := by
  apply run_induction
  · simp [Cover.Covered, initial, empty]
  intro world input covered
  unfold Cover.Covered at covered ⊢
  cases input with
  | call caller hook =>
    simp only [step, load_append]
    omega
  | advance place answer =>
    rcases advance_cases machine place answer world with same | runs
    · simpa [step, same] using covered
    obtain ⟨mover, first, rest, outcome, found, ran, same⟩ := runs
    simp only [step, same]
    have moved := load_set cover.refers owner outcome.next found
    by_cases own : mover = owner
    · subst own
      simp only [if_true] at moved
      rcases kept.own ran with closed | referred <;> omega
    · obtain ⟨fewer, sameKept⟩ := kept.other own ran
      simp only [if_neg own] at moved
      omega
  | restart => simpa [step, kept.noRestart] using covered

end HouseGate.TaskPool
