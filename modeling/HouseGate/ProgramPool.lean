import HouseGate.ProgramEffects

namespace HouseGate.ProgramPool

open EffectProgram

/-!
# Threads that run programs side by side

A thread runs from one loop head to the next until it ends.  A scheduler picks
the thread that performs its next action and the input of that action.  The
parallel rule carries an invariant through every run: each thread meets its
own rules, and what a thread guarantees is what the others rely on.
-/

/-- `point` is a loop head; a program without one to go to ends its thread. -/
abbrev Code (θ σ ι point : Type) := θ → point → Program σ ι (Option point)

/-- The shared state and what each thread still has to do. -/
structure Pool (θ σ ι point : Type) where
  shared : σ
  programs : θ → Program σ ι (Option point)

variable {θ σ ι point : Type} [DecidableEq θ]

/-- One action of a thread, or the way from a loop head into its body. -/
def step (code : Code θ σ ι point) (pool : Pool θ σ ι point) (input : θ × ι) : Pool θ σ ι point :=
  match pool.programs input.1 with
  | .done none => pool
  | .done (some head) =>
    { pool with
      programs := fun thread =>
        if thread = input.1 then code thread head
        else pool.programs thread }
  | .perform action next =>
    match action input.2 pool.shared with
    | none => pool
    | some (answer, after) =>
      { shared := after
        programs := fun thread =>
          if thread = input.1 then next answer
          else pool.programs thread }

def start (shared : σ) (heads : θ → Option point) : Pool θ σ ι point :=
  { shared := shared, programs := fun thread => .done (heads thread) }

def run (code : Code θ σ ι point) (pool : Pool θ σ ι point)
    (inputs : List (θ × ι)) : Pool θ σ ι point :=
  inputs.foldl (step code) pool

/--
What the threads of a pool owe to each other.  `allowed` are the actions that
a run may take; a contract without a condition allows them all.
-/
structure Contract (θ σ ι point : Type) where
  allowed : θ → σ → ι → σ → Prop
  invariant : σ → Prop
  rely : θ → σ → σ → Prop
  guarantee : θ → σ → σ → Prop
  heads : θ → Option point → σ → Prop

def Contract.rules (contract : Contract θ σ ι point) (thread : θ) : Rules σ where
  invariant := contract.invariant
  rely := contract.rely thread
  guarantee := contract.guarantee thread

/-- A program of a thread keeps its part of the contract. -/
def Contract.Meets
    (contract : Contract θ σ ι point) (thread : θ) (program : Program σ ι (Option point))
    (state : σ) : Prop :=
  MeetsWhen (contract.allowed thread) (contract.rules thread) program (contract.heads thread) state

/-- What makes a contract hold in every run. -/
structure Contract.Kept (contract : Contract θ σ ι point) (code : Code θ σ ι point) : Prop where
  reflexive : ∀ {thread state}, contract.rely thread state state
  transitive : ∀ {thread first second third}, contract.rely thread first second →
      contract.rely thread second third → contract.rely thread first third
  compatible : ∀ {thread other before after},
      thread ≠ other → contract.guarantee other before after → contract.rely thread before after
  stable : ∀ {thread head before after}, contract.rely thread before after →
      contract.heads thread head before → contract.heads thread head after
  bodies : ∀ {thread head state}, contract.invariant state →
      contract.heads thread (some head) state → contract.Meets thread (code thread head) state

/-- The invariant, and every thread on its way to its next loop head. -/
structure Contract.Holds (contract : Contract θ σ ι point) (pool : Pool θ σ ι point) : Prop where
  invariant : contract.invariant pool.shared
  threads : ∀ thread, contract.Meets thread (pool.programs thread) pool.shared

/-- A run whose steps are all allowed. -/
def Contract.Admits (contract : Contract θ σ ι point)
    (code : Code θ σ ι point) : Pool θ σ ι point → List (θ × ι) → Prop
  | _, [] => True
  | pool, input :: inputs =>
    contract.allowed input.1 pool.shared input.2 (step code pool input).shared ∧
      contract.Admits code (step code pool input) inputs

variable {contract : Contract θ σ ι point} {code : Code θ σ ι point} {pool : Pool θ σ ι point}

omit [DecidableEq θ] in
/-- What others did meanwhile does not matter to a thread. -/
theorem Contract.Kept.meets_of_rely
    {thread : θ}
    {program : Program σ ι (Option point)}
    {before after : σ}
    (kept : contract.Kept code)
    (others : contract.rely thread before after)
    (meets : contract.Meets thread program before) :
    contract.Meets thread program after := by
  cases program with
  | done head => exact kept.stable others meets
  | perform action next =>
    intro later relied
    exact meets later (kept.transitive others relied)

theorem Contract.Holds.step
    (kept : contract.Kept code)
    (holds : contract.Holds pool)
    {input : θ × ι}
    (allowed : contract.allowed input.1 pool.shared input.2 (step code pool input).shared) :
    contract.Holds (step code pool input) := by
  have own := holds.threads input.1
  unfold ProgramPool.step at allowed ⊢
  cases program : pool.programs input.1 with
  | done head =>
    rw [program] at own
    cases head with
    | none => exact holds
    | some head =>
      refine ⟨holds.invariant, ?_⟩
      intro thread
      by_cases same : thread = input.1
      · subst same
        simpa using kept.bodies holds.invariant own
      · simpa [same] using holds.threads thread
  | perform action next =>
    rw [program] at own allowed
    cases performed : action input.2 pool.shared with
    | none => simpa [performed] using holds
    | some outcome =>
      obtain ⟨answer, after⟩ := outcome
      simp only [performed] at allowed ⊢
      obtain ⟨invariant, guaranteed, rest⟩ := meetsWhen_perform.mp own pool.shared kept.reflexive
          holds.invariant input.2 answer after performed allowed
      refine ⟨invariant, ?_⟩
      intro thread
      by_cases same : thread = input.1
      · subst same
        simpa [Contract.Meets] using rest
      · have others := kept.compatible same guaranteed
        simpa [same] using kept.meets_of_rely others (holds.threads thread)

theorem Contract.Holds.run
    (kept : contract.Kept code)
    (holds : contract.Holds pool)
    {inputs : List (θ × ι)}
    (admitted : contract.Admits code pool inputs) :
    contract.Holds (run code pool inputs) := by
  induction inputs generalizing pool with
  | nil => exact holds
  | cons input inputs inductionHypothesis =>
    exact inductionHypothesis (holds.step kept admitted.1) admitted.2

/-- A condition on the inputs alone. -/
theorem Contract.admits_of_inputs {inputs : List (θ × ι)}
    (allowed : ∀ input ∈ inputs, ∀ before after, contract.allowed input.1 before input.2 after) :
    contract.Admits code pool inputs := by
  induction inputs generalizing pool with
  | nil => trivial
  | cons input inputs inductionHypothesis =>
    refine ⟨allowed input List.mem_cons_self _ _, ?_⟩
    exact inductionHypothesis fun later member => allowed later (List.mem_cons_of_mem input member)

end HouseGate.ProgramPool
