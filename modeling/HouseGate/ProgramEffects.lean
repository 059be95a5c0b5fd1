import HouseGate.EffectProgram

namespace HouseGate.EffectProgram

open Program

/-!
# What the actions of a program may do

`MeetsWhen` is `Meets` for the runs whose actions all satisfy a condition.
`Bounded` bounds every action of a program by a relation, and its results by a
predicate, whatever the answers and the order of other programs' actions are.
A bounded program meets any rules that the relation respects.
-/

variable {σ ι α β : Type}

/-! ## Conditions on the actions -/

open Classical in
/-- The program with the actions blocked that do not satisfy a condition. -/
noncomputable def Program.restrict (allowed : σ → ι → σ → Prop) : Program σ ι α → Program σ ι α
  | .done value => .done value
  | .perform step next =>
    .perform
      (fun input state => (step input state).filter fun outcome => allowed state input outcome.2)
      fun answer => (next answer).restrict allowed

theorem Program.restrict_bind
    (allowed : σ → ι → σ → Prop)
    (program : Program σ ι α)
    (later : α → Program σ ι β) :
    (program >>= later).restrict allowed =
      program.restrict allowed >>= fun value => (later value).restrict allowed := by
  induction program with
  | done value => rfl
  | perform step next inductionHypothesis =>
    exact congrArg (perform _) (funext inductionHypothesis)

theorem Program.onPart_bind
    {τ : Type}
    (part : σ → τ)
    (replace : σ → τ → σ)
    (program : Program τ ι α)
    (later : α → Program τ ι β) :
    (program >>= later).onPart part replace =
      program.onPart part replace >>= fun value => (later value).onPart part replace := by
  induction program with
  | done value =>
    rfl
  | perform step next inductionHypothesis =>
    exact congrArg (perform _) (funext inductionHypothesis)

def MeetsWhen (allowed : σ → ι → σ → Prop) (rules : Rules σ) (program : Program σ ι α)
    (ensures : α → σ → Prop)
    (state : σ) : Prop :=
  Meets rules (program.restrict allowed) ensures state

variable {step : ι → σ → Option (α × σ)} {program : Program σ ι α} {later : α → Program σ ι β}

section ConditionalRules

variable {allowed : σ → ι → σ → Prop} {rules : Rules σ} {state : σ}

theorem meetsWhen_pure
    {value : α}
    {ensures : α → σ → Prop}
    (holds : ensures value state) :
    MeetsWhen allowed rules (pure value : Program σ ι α) ensures state :=
  holds

variable {ensures : β → σ → Prop}

theorem meetsWhen_perform {next : α → Program σ ι β} :
    MeetsWhen allowed rules (.perform step next) ensures state ↔ ∀ before, rules.rely state before →
        rules.invariant before →
        ∀ input answer after, step input before = some (answer, after) →
          allowed before input after →
          rules.invariant after ∧
            rules.guarantee before after ∧ MeetsWhen allowed rules (next answer) ensures after := by
  simp only [MeetsWhen, restrict, Meets, Option.filter_eq_some_iff,
    decide_eq_true_eq, and_imp]

theorem meetsWhen_act {ensures : α → σ → Prop} (own : ∀ before, rules.rely state before →
        rules.invariant before →
        ∀ input answer after, step input before = some (answer, after) →
          allowed before input after →
          rules.invariant after ∧ rules.guarantee before after ∧ ensures answer after) :
    MeetsWhen allowed rules (.act step) ensures state :=
  meetsWhen_perform.mpr own

theorem meetsWhen_bind (meets : MeetsWhen allowed rules program
    (fun value => MeetsWhen allowed rules (later value) ensures)
    state) :
    MeetsWhen allowed rules (program >>= later) ensures state := by
  unfold MeetsWhen
  rw [restrict_bind]
  exact meets_bind meets

theorem MeetsWhen.weaken
    {strong weak : α → σ → Prop} (meets : MeetsWhen allowed rules program strong state)
    (weaker : ∀ value final, strong value final → weak value final) :
    MeetsWhen allowed rules program weak state :=
  Meets.weaken meets weaker

/-- The rest of a program starts from what its first part ensures. -/
theorem meetsWhen_seq {first : α → σ → Prop} (meets : MeetsWhen allowed rules program first state)
    (rest :
      ∀ value state, first value state → MeetsWhen allowed rules (later value) ensures state) :
    MeetsWhen allowed rules (program >>= later) ensures state :=
  meetsWhen_bind (meets.weaken rest)

/-- Rules that rely on more and owe less. -/
theorem MeetsWhen.under
    {others : Rules σ}
    {ensures : α → σ → Prop}
    (meets : MeetsWhen allowed rules program ensures state)
    (invariant : others.invariant = rules.invariant)
    (relied : ∀ before after, others.rely before after → rules.rely before after)
    (owed : ∀ before after, rules.guarantee before after → others.guarantee before after) :
    MeetsWhen allowed others program ensures state := by
  induction program generalizing state with
  | done value => exact meets
  | perform step next inductionHypothesis =>
    rw [meetsWhen_perform] at meets ⊢
    intro before others holds input answer after performed permitted
    rw [invariant] at holds ⊢
    obtain ⟨kept, guaranteed, rest⟩ :=
      meets before (relied state before others) holds input answer after performed permitted
    exact ⟨kept, owed before after guaranteed, inductionHypothesis answer rest⟩

end ConditionalRules

/-! ## Bounds -/

def Bounded (effect : σ → σ → Prop) (result : α → Prop) : Program σ ι α → Prop
  | .done value => result value
  | .perform step next =>
    (∀ input before answer after, step input before = some (answer, after) → effect before after) ∧
      ∀ answer, Bounded effect result (next answer)

/-- Every step stays within the effect; any result will do. -/
abbrev Within (effect : σ → σ → Prop) (program : Program σ ι α) : Prop :=
  Bounded effect (fun _ => True) program

section Rules

variable {effect : σ → σ → Prop}

theorem bounded_pure
    {result : α → Prop}
    {value : α}
    (holds : result value) :
    Bounded effect result (pure value : Program σ ι α) :=
  holds

theorem bounded_act (bounded :
    ∀ input before answer after, step input before = some (answer, after) → effect before after) :
    Within effect (act step) :=
  ⟨bounded, fun _ => trivial⟩

/-- What an action makes of each input, if it takes it. -/
theorem bounded_answer (bounded :
    ∀ input before, (step input before).elim True fun taken => effect before taken.2) :
    Within effect (act step) := by
  apply bounded_act
  intro input before answer after performed
  simpa [performed] using bounded input before

theorem bounded_ask {read : ι → σ → Option α} (bounded : ∀ state, effect state state) :
    Within effect (ask read) := by
  apply bounded_act
  intro input before answer after performed
  obtain ⟨_, -, same⟩ := Option.map_eq_some_iff.mp performed
  cases same
  exact bounded before

variable {result : β → Prop}

theorem bounded_bind {first : α → Prop} (bounded : Bounded effect first program)
    (rest : ∀ value, first value → Bounded effect result (later value)) :
    Bounded effect result (program >>= later) := by
  induction program with
  | done value => exact rest value bounded
  | perform step next inductionHypothesis =>
    exact ⟨bounded.1, fun answer => inductionHypothesis answer (bounded.2 answer)⟩

/-- The first program's result does not matter to the second. -/
theorem bounded_seq
    (bounded : Within effect program) (rest : ∀ value, Bounded effect result (later value)) :
    Bounded effect result (program >>= later) :=
  bounded_bind bounded fun value _ => rest value

/-- Nobody reads the first program's result. -/
theorem bounded_then
    {later : Program σ ι β}
    (bounded : Within effect program)
    (rest : Bounded effect result later) :
    Bounded effect result (program >>= fun _ => later) :=
  bounded_seq bounded fun _ => rest

/-- The first program's answer decides which program goes on. -/
theorem bounded_choose
    {question : Program σ ι Bool}
    {yes no : Program σ ι β}
    (bounded : Within effect question)
    (ifYes : Bounded effect result yes)
    (ifNo : Bounded effect result no) :
    Bounded effect result (question >>= fun answer => if answer then yes else no) := by
  apply bounded_seq bounded
  intro answer
  split
  · exact ifYes
  · exact ifNo

theorem Bounded.weaken
    {weak : σ → σ → Prop}
    {result laxer : α → Prop}
    (bounded : Bounded effect result program)
    (weaker : ∀ before after, effect before after → weak before after)
    (lax : ∀ value, result value → laxer value) :
    Bounded weak laxer program := by
  induction program with
  | done value => exact lax value bounded
  | perform step next inductionHypothesis =>
    refine ⟨?_, fun answer => inductionHypothesis answer (bounded.2 answer)⟩
    intro input before answer after performed
    exact weaker before after (bounded.1 input before answer after performed)

/-- A bound on the part is one on the whole. -/
theorem Bounded.onPart
    {τ : Type}
    {part : σ → τ}
    {replace : σ → τ → σ}
    {onPart : τ → τ → Prop}
    {program : Program τ ι α}
    {result : α → Prop}
    (bounded : Bounded onPart result program)
    (lifts : ∀ state after, onPart (part state) after → effect state (replace state after)) :
    Bounded effect result (program.onPart part replace) := by
  induction program with
  | done value =>
    exact bounded
  | perform step next inductionHypothesis =>
    refine ⟨?_, fun answer => inductionHypothesis answer (bounded.2 answer)⟩
    intro input before answer after performed
    obtain ⟨taken, stepped, same⟩ := Option.map_eq_some_iff.mp performed
    cases same
    exact lifts before taken.2 (bounded.1 input (part before) taken.1 taken.2 stepped)

/-- Nothing bounds a program from the start. -/
theorem bounded_any (program : Program σ ι α) : Within (fun _ _ => True) program := by
  induction program with
  | done value =>
    trivial
  | perform step next inductionHypothesis =>
    exact ⟨fun _ _ _ _ _ => trivial, inductionHypothesis⟩

/-- What the bound and the others leave true is true in the end. -/
theorem meetsWhen_of_bounded
    {allowed : σ → ι → σ → Prop}
    {rules : Rules σ}
    {result : α → Prop}
    {fact : σ → Prop}
    {state : σ}
    (bounded : Bounded effect result program)
    (others : ∀ before after, rules.rely before after → fact before → fact after)
    (own : ∀ before after, effect before after → rules.invariant before →
        fact before → rules.invariant after ∧ rules.guarantee before after ∧ fact after)
    (holds : fact state) :
    MeetsWhen allowed rules program (fun value final => result value ∧ fact final) state := by
  induction program generalizing state with
  | done value => exact ⟨bounded, holds⟩
  | perform step next inductionHypothesis =>
    rw [meetsWhen_perform]
    intro before relied invariant input answer after performed _
    have factBefore := others state before relied holds
    obtain ⟨kept, owed, factAfter⟩ :=
      own before after (bounded.1 input before answer after performed) invariant factBefore
    exact ⟨kept, owed, inductionHypothesis answer (bounded.2 answer) factAfter⟩

end Rules

end HouseGate.EffectProgram
