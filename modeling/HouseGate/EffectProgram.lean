import Mathlib.Logic.Basic

namespace HouseGate.EffectProgram

/-!
# Programs that act on a shared state

A program is a tree of atomic actions.  An action reads and changes the shared
state in one indivisible step and may consult an input: the answer of a port,
the outcome of a write, the branch a scheduler takes.  An input that does not
fit the action leaves it blocked.  `Meets` is a rely and guarantee rule for
such programs: it speaks about every action on the way and not only about the
final state, because a crash may end the program between any two actions.
-/

/-- A program that takes one input at each of its steps. -/
inductive Program (σ ι α : Type) : Type 1 where
  | done (value : α)
  | perform {β : Type} (step : ι → σ → Option (β × σ)) (next : β → Program σ ι α)

namespace Program

variable {σ ι α β : Type}

/-- One action whose answer is the answer of the program. -/
def act (step : ι → σ → Option (α × σ)) : Program σ ι α := .perform step .done

/-- An action that leaves the state as it is. -/
def ask (read : ι → σ → Option α) : Program σ ι α := act fun input state =>
    (read input state).map fun answer => (answer, state)

def bind : Program σ ι α → (α → Program σ ι β) → Program σ ι β
  | .done value, later => later value
  | .perform step next, later => .perform step fun answer => (next answer).bind later

instance : Monad (Program σ ι) where
  pure := .done
  bind := .bind

/--
Run a program on a list of inputs.  It stops without an answer where the
inputs end or the next one does not fit, as a crash would leave it.
-/
def exec : Program σ ι α → List ι → σ → Option α × σ
  | .done value, _, state => (some value, state)
  | .perform _ _, [], state => (none, state)
  | .perform step next, input :: inputs, state =>
    match step input state with
    | none => (none, state)
    | some (answer, after) => (next answer).exec inputs after

/-- A program on a part of the state, as a program on the whole. -/
def onPart {τ : Type} (part : σ → τ) (replace : σ → τ → σ) : Program τ ι α → Program σ ι α
  | .done value => .done value
  | .perform step next =>
    .perform
      (fun input state =>
        (step input (part state)).map fun taken => (taken.1, replace state taken.2))
      fun answer => (next answer).onPart part replace

end Program

/-- What a program may assume of and owes to the rest of the system. -/
structure Rules (σ : Type) where
  invariant : σ → Prop
  rely : σ → σ → Prop
  guarantee : σ → σ → Prop

/-- The rules of a program that nothing interrupts. -/
def Rules.alone {σ : Type} (invariant : σ → Prop) : Rules σ where
  invariant := invariant
  rely := Eq
  guarantee := fun _ _ => True

/--
Every action keeps the invariant and the guarantee whatever the others did
before it, and a final answer satisfies the postcondition.
-/
def Meets {σ ι α : Type} (rules : Rules σ) : Program σ ι α → (α → σ → Prop) → σ → Prop
  | .done value, ensures, state => ensures value state
  | .perform step next, ensures, state =>
    ∀ before, rules.rely state before → rules.invariant before →
      ∀ input answer after, step input before = some (answer, after) → rules.invariant after ∧
          rules.guarantee before after ∧ Meets rules (next answer) ensures after

section MeetsRules

variable {σ ι α β : Type} {rules : Rules σ} {state : σ}

/-- A sequence meets what its first part leaves for the second. -/
theorem meets_bind
    {program : Program σ ι α}
    {later : α → Program σ ι β}
    {ensures : β → σ → Prop}
    (meets : Meets rules program (fun value => Meets rules (later value) ensures) state) :
    Meets rules (program >>= later) ensures state := by
  induction program generalizing state with
  | done value => exact meets
  | perform step next inductionHypothesis =>
    intro before others invariant input answer after stepped
    obtain ⟨kept, owed, rest⟩ := meets before others invariant input answer after stepped
    exact ⟨kept, owed, inductionHypothesis answer rest⟩

/-- A stronger postcondition serves for a weaker one. -/
theorem Meets.weaken {program : Program σ ι α} {strong weak : α → σ → Prop}
    (meets : Meets rules program strong state)
    (weaker : ∀ value final, strong value final → weak value final) :
    Meets rules program weak state := by
  induction program generalizing state with
  | done value => exact weaker value state meets
  | perform step next inductionHypothesis =>
    intro before others invariant input answer after stepped
    obtain ⟨kept, owed, rest⟩ := meets before others invariant input answer after stepped
    exact ⟨kept, owed, inductionHypothesis answer rest⟩

end MeetsRules

/-- A program that nothing interrupts keeps its invariant on all inputs. -/
theorem Meets.exec_invariant
    {σ ι α : Type}
    {invariant : σ → Prop}
    {program : Program σ ι α}
    {ensures : α → σ → Prop}
    {state : σ}
    (meets : Meets (.alone invariant) program ensures state)
    (holds : invariant state)
    (inputs : List ι) :
    invariant (program.exec inputs state).2 := by
  induction program generalizing state inputs with
  | done value => exact holds
  | perform step next inductionHypothesis =>
    cases inputs with
    | nil => exact holds
    | cons input inputs =>
      cases stepped : step input state with
      | none => simpa [Program.exec, stepped] using holds
      | some outcome =>
        obtain ⟨answer, after⟩ := outcome
        obtain ⟨kept, -, rest⟩ := meets state rfl holds input answer after stepped
        simpa [Program.exec, stepped] using inductionHypothesis answer rest kept inputs

end HouseGate.EffectProgram
