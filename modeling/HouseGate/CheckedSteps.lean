import Mathlib.Data.List.Forall2

namespace HouseGate.CheckedSteps

open List

/-!
# Chains of checks

A validator is a chain of checks, each of which stops the chain with its own
refusal.  The lemmas say what is known once the whole chain has passed: every
guard failed to fire, every intermediate computation had a value, and a check
made on each entry of a list passed on each of them.
-/

theorem bind_eq_ok_iff
    {step : Except ε α}
    {continuation : α → Except ε β}
    {result : β} :
    step >>= continuation = .ok result ↔
      ∃ value, step = .ok value ∧ continuation value = .ok result := by
  cases step with
  | error reason =>
    constructor
    · intro failed
      cases failed
    · rintro ⟨_, impossible, _⟩
      cases impossible
  | ok value =>
    constructor
    · intro passed
      exact ⟨value, rfl, passed⟩
    · rintro ⟨_, same, passed⟩
      cases same
      exact passed

theorem bind_eq_some_iff
    {step : Option α}
    {continuation : α → Option β}
    {result : β} :
    step >>= continuation = some result ↔
      ∃ value, step = some value ∧ continuation value = some result :=
  Option.bind_eq_some_iff

theorem pure_eq_some_iff {value result : α} : pure value = some result ↔ value = result :=
  Option.some_inj

variable {result : α}

/-- A check that returns nothing, and what comes after it. -/
theorem check_eq_ok_iff {check : Except ε Unit} {rest : Except ε α} :
    (check >>= fun _ => rest) = .ok result ↔ check = .ok () ∧ rest = .ok result := by
  rw [bind_eq_ok_iff]
  constructor
  · rintro ⟨⟨⟩, passed, rested⟩
    exact ⟨passed, rested⟩
  · rintro ⟨passed, rested⟩
    exact ⟨(), passed, rested⟩

theorem guard_eq_ok_iff
    {condition : Prop}
    [Decidable condition]
    {reason : ε}
    {rest : Except ε α} :
    (if condition then .error reason else rest) = .ok result ↔ ¬condition ∧ rest = .ok result := by
  by_cases holds : condition <;> simp [holds]

/-- Check every entry of a list, in order, with its position. -/
def checkEachFrom (check : Nat → α → Except ε Unit) : Nat → List α → Except ε Unit
  | _, [] => .ok ()
  | index, item :: rest => do
      check index item
      checkEachFrom check (index + 1) rest

def checkEach (check : Nat → α → Except ε Unit) (items : List α) : Except ε Unit :=
  checkEachFrom check 0 items

variable {items : List α}

theorem checkEachFrom_eq_ok_iff {check : Nat → α → Except ε Unit} {start : Nat} :
    checkEachFrom check start items = .ok () ↔
      ∀ index item, items[index]? = some item → check (start + index) item = .ok () := by
  induction items generalizing start with
  | nil =>
    constructor
    · intro _ index item present
      cases present
    · intro _
      rfl
  | cons first rest inductionHypothesis =>
    rw [checkEachFrom, bind_eq_ok_iff]
    constructor
    · rintro ⟨_, firstPassed, restPassed⟩ index item present
      cases index with
      | zero =>
        cases present
        exact firstPassed
      | succ later =>
        have passed := inductionHypothesis.mp restPassed later item present
        have position : start + (later + 1) = start + 1 + later := by
          omega
        rw [position]
        exact passed
    · intro every
      refine ⟨(), every 0 first rfl, ?_⟩
      apply inductionHypothesis.mpr
      intro index item present
      have passed := every (index + 1) item present
      have position : start + (index + 1) = start + 1 + index := by
        omega
      rw [position] at passed
      exact passed

/-- A check that does not depend on the position. -/
theorem checkEach_eq_ok_iff {check : α → Except ε Unit} :
    checkEach (fun _ item => check item) items = .ok () ↔ ∀ item ∈ items, check item = .ok () := by
  rw [checkEach, checkEachFrom_eq_ok_iff]
  constructor
  · intro every item member
    obtain ⟨index, present⟩ := getElem?_of_mem member
    exact every index item present
  · intro every index item present
    exact every item (mem_of_getElem? present)

/-- A mapped computation has a value exactly when every entry has one. -/
theorem mapM_eq_ok_iff {step : α → Except ε β} {results : List β} : items.mapM step = .ok results ↔
    Forall₂ (fun item result => step item = .ok result) items results := by
  induction items generalizing results with
  | nil =>
    rw [mapM_nil, forall₂_nil_left_iff]
    constructor
    · intro same
      cases same
      rfl
    · intro same
      cases same
      rfl
  | cons item rest inductionHypothesis =>
    rw [mapM_cons, bind_eq_ok_iff, forall₂_cons_left_iff]
    constructor
    · rintro ⟨value, first, after⟩
      obtain ⟨values, others, returned⟩ := bind_eq_ok_iff.mp after
      cases returned
      exact ⟨value, values, first, inductionHypothesis.mp others, rfl⟩
    · rintro ⟨value, values, first, others, rfl⟩
      refine ⟨value, first, bind_eq_ok_iff.mpr ⟨values, ?_, rfl⟩⟩
      exact inductionHypothesis.mpr others

/-- Every entry of a list has its counterpart in the list it is paired with. -/
theorem exists_paired
    {pairs : α → β → Prop}
    {results : List β}
    {item : α}
    (paired : Forall₂ pairs items results)
    (member : item ∈ items) :
    ∃ result ∈ results, pairs item result := by
  induction paired with
  | nil => cases member
  | @cons first result _ _ own _ inductionHypothesis =>
    rcases mem_cons.mp member with rfl | later
    · exact ⟨result, mem_cons_self, own⟩
    · obtain ⟨other, listed, paired⟩ := inductionHypothesis later
      exact ⟨other, mem_cons_of_mem _ listed, paired⟩

/-- A mapped computation whose values are those of a function. -/
theorem mapM_eq_ok_map_iff
    {β γ ε : Type}
    {step : β → Except ε γ}
    {passes : β → Prop}
    {image : β → γ}
    (spec : ∀ item result, step item = .ok result ↔ passes item ∧ result = image item)
    {items : List β}
    {results : List γ} :
    items.mapM step = .ok results ↔ (∀ item ∈ items, passes item) ∧ results = items.map image := by
  rw [mapM_eq_ok_iff]
  constructor
  · intro paired
    induction paired with
    | nil => exact ⟨forall_mem_nil _, rfl⟩
    | @cons item result rest results stepped _ inductionHypothesis =>
      obtain ⟨itemPasses, rfl⟩ := (spec item result).mp stepped
      obtain ⟨restPasses, rfl⟩ := inductionHypothesis
      exact ⟨forall_mem_cons.mpr ⟨itemPasses, restPasses⟩, rfl⟩
  · rintro ⟨every, rfl⟩
    induction items with
    | nil => exact Forall₂.nil
    | cons item rest inductionHypothesis =>
      obtain ⟨itemPasses, restPasses⟩ := forall_mem_cons.mp every
      exact Forall₂.cons ((spec item _).mpr ⟨itemPasses, rfl⟩) (inductionHypothesis restPasses)

/-- A loop depends on its step at the listed items only. -/
theorem mapM_congr_of_mem
    {first second : α → Except ε β} (same : ∀ item ∈ items, first item = second item) :
    items.mapM first = items.mapM second := by
  induction items with
  | nil => rfl
  | cons item rest inductionHypothesis =>
    rw [mapM_cons, mapM_cons, same item mem_cons_self,
      inductionHypothesis (fun other member => same other (mem_cons_of_mem _ member))]

variable {step : σ → α → Except ε σ}

/-- A loop whose steps do not fail, and keep a condition, ends in it. -/
theorem foldlM_total (condition : σ → Prop)
    (total : ∀ item ∈ items, ∀ before, condition before →
        ∃ after, step before item = .ok after ∧ condition after) {start : σ}
    (initially : condition start) :
    ∃ finish, items.foldlM step start = .ok finish ∧ condition finish := by
  induction items generalizing start with
  | nil => exact ⟨start, rfl, initially⟩
  | cons first rest inductionHypothesis =>
    obtain ⟨middle, stepped, holds⟩ := total first mem_cons_self start initially
    obtain ⟨finish, rested, atEnd⟩ :=
      inductionHypothesis (fun item member => total item (mem_cons_of_mem _ member)) holds
    refine ⟨finish, ?_, atEnd⟩
    exact bind_eq_ok_iff.mpr ⟨middle, stepped, rested⟩

/-- A loop invariant over the entries that are processed already. -/
theorem foldlM_processed {start finish : σ} (invariant : List α → σ → Prop)
    (kept : ∀ processed item before after, item ∈ items → step before item = .ok after →
        invariant processed before → invariant (processed ++ [item]) after)
    (finished : items.foldlM step start = .ok finish) (initially : invariant [] start) :
    invariant items finish := by
  have general : ∀ processed rest state, (∀ item ∈ rest, item ∈ items) →
      rest.foldlM step state = .ok finish →
      invariant processed state → invariant (processed ++ rest) finish := by
    intro processed rest
    induction rest generalizing processed with
    | nil =>
      intro state _ ended holds
      cases ended
      simpa using holds
    | cons item rest inductionHypothesis =>
      intro state inside ended holds
      obtain ⟨middle, stepped, rested⟩ := bind_eq_ok_iff.mp ended
      have next := kept processed item state middle (inside item mem_cons_self) stepped holds
      have result :=
        inductionHypothesis (processed ++ [item]) middle
          (fun other member => inside other (mem_cons_of_mem _ member))
          rested next
      simpa using result
  exact general [] items start (fun _ member => member) finished initially

/-- Every entry is acceptable, and no two carry one label. -/
def allFresh [DecidableEq β] (accept : α → Bool) (label : α → β) : List β → List α → Bool
  | _, [] => true
  | seen, item :: rest =>
    accept item && !seen.contains (label item) && allFresh accept label (label item :: seen) rest

theorem allFresh_iff
    [DecidableEq β]
    {accept : α → Bool}
    {label : α → β}
    {seen : List β} :
    allFresh accept label seen items = true ↔
      (∀ item ∈ items, accept item = true ∧ label item ∉ seen) ∧ (items.map label).Nodup := by
  induction items generalizing seen with
  | nil => simp [allFresh]
  | cons first rest inductionHypothesis =>
    simp only [allFresh, Bool.and_eq_true, Bool.not_eq_true',
      contains_eq_mem, decide_eq_false_iff_not,
      inductionHypothesis, map_cons, nodup_cons,
      mem_cons, forall_eq_or_imp, not_or, mem_map]
    constructor
    · rintro ⟨⟨accepted, fresh⟩, others, distinct⟩
      refine ⟨⟨⟨accepted, fresh⟩, ?_⟩, ?_, distinct⟩
      · intro item member
        exact ⟨(others item member).1, (others item member).2.2⟩
      · rintro ⟨item, member, same⟩
        exact (others item member).2.1 same
    · rintro ⟨⟨⟨accepted, fresh⟩, others⟩, firstNew, distinct⟩
      refine ⟨⟨accepted, fresh⟩, ?_, distinct⟩
      intro item member
      refine ⟨(others item member).1, ?_, (others item member).2⟩
      intro same
      exact firstNew ⟨item, member, same⟩

end HouseGate.CheckedSteps
