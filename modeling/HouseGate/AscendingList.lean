import Mathlib.Order.Lattice
import Mathlib.Data.List.Basic

namespace HouseGate.AscendingList

open List

/-!
# Strictly ascending lists with a capacity

A free list keeps values in strictly ascending order, gives out its head and
takes values back at their position.  Past a capacity the largest value is
dropped.  The operations below follow an index computed by binary search on a
sorted list, that is the number of leading entries smaller than the value.
-/

variable {α : Type} [LinearOrder α]
  (items : List α)

/-- Strictly ascending, hence duplicate-free. -/
def Ascending : Prop := items.Pairwise (· < ·)

/-- The first index whose entry is not smaller than the value. -/
def searchIndex (value : α) : Nat := (items.takeWhile (· < value)).length

/-- Insert a value at its index. -/
def insertSorted (value : α) : List α :=
  items.take (searchIndex items value) ++ value :: items.drop (searchIndex items value)

/--
The first entry that is out of range or not above its predecessor, with its
index; `previous` is the entry before the list.
-/
def firstMisplaced (inRange : α → Bool) : Nat → Option α → List α → Option (α × Nat)
  | _, _, [] => none
  | index, previous, value :: rest =>
    if !inRange value || previous.any (fun before => value ≤ before) then
      some (value, index)
    else
      firstMisplaced inRange (index + 1) (some value) rest

variable {items}

/-- An ascending list of entries in range has no misplaced one. -/
theorem firstMisplaced_of_ascending
    {inRange : α → Bool}
    {index : Nat}
    {previous : Option α}
    (ascending : Ascending items)
    (allInRange : ∀ value ∈ items, inRange value = true)
    (above : ∀ before ∈ previous, ∀ value ∈ items, before < value) :
    firstMisplaced inRange index previous items = none := by
  induction items generalizing index previous with
  | nil => rfl
  | cons value rest inductionHypothesis =>
    have order := pairwise_cons.mp ascending
    have notBelow : previous.any (fun before => value ≤ before) = false := by
      cases previous with
      | none => rfl
      | some before =>
        have smaller := above before rfl value (by simp)
        simpa using smaller
    have placed : ¬((!inRange value || previous.any (fun before => value ≤ before)) = true) := by
      simp [allInRange value (by simp), notBelow]
    rw [firstMisplaced, if_neg placed]
    apply inductionHypothesis order.2
    · intro later member
      exact allInRange later (by simp [member])
    · intro before same later member
      cases same
      exact order.1 later member

variable {value : α}

/-- On an ascending list the value at its index is the only possible copy. -/
theorem getElem?_searchIndex_eq_some_iff (ascending : Ascending items) :
    items[searchIndex items value]? = some value ↔ value ∈ items := by
  induction items with
  | nil => simp [searchIndex]
  | cons head rest inductionHypothesis =>
    obtain ⟨headBelow, restAscending⟩ := pairwise_cons.mp ascending
    by_cases smaller : head < value
    · have tail := inductionHypothesis restAscending
      have different : value ≠ head := ne_of_gt smaller
      simpa [searchIndex, smaller, different] using tail
    simp only [searchIndex, takeWhile_cons, smaller,
      decide_false, Bool.false_eq_true, ↓reduceIte,
      length_nil, getElem?_cons_zero,
      Option.some.injEq, mem_cons]
    constructor
    · intro same
      exact Or.inl same.symm
    · rintro (same | member)
      · exact same.symm
      · exact (smaller (headBelow value member)).elim

@[simp] theorem mem_insertSorted {other : α} :
    other ∈ insertSorted items value ↔ other = value ∨ other ∈ items := by
  have parts : other ∈ items ↔ other ∈ items.take (searchIndex items value) ∨
      other ∈ items.drop (searchIndex items value) := by
    rw [← mem_append, take_append_drop]
  simp only [insertSorted, mem_append, mem_cons]
  tauto

/-- A new value at its index keeps an ascending list ascending. -/
theorem ascending_insertSorted (ascending : Ascending items) (fresh : value ∉ items) :
    Ascending (insertSorted items value) := by
  induction items with
  | nil => simp [insertSorted, searchIndex, Ascending]
  | cons head rest inductionHypothesis =>
    obtain ⟨headBelow, restAscending⟩ := pairwise_cons.mp ascending
    by_cases smaller : head < value
    · have shape : insertSorted (head :: rest) value = head :: insertSorted rest value := by
        simp [insertSorted, searchIndex, smaller]
      rw [shape]
      apply pairwise_cons.mpr
      refine ⟨?_, ?_⟩
      · intro other member
        rcases mem_insertSorted.mp member with same | inRest
        · exact same ▸ smaller
        · exact headBelow other inRest
      · exact inductionHypothesis restAscending (fun member => fresh (by simp [member]))
    · have valueBelow : value < head :=
        lt_of_le_of_ne (not_lt.mp smaller) fun same => fresh (by simp [same])
      have shape : insertSorted (head :: rest) value = value :: head :: rest := by
        simp [insertSorted, searchIndex, smaller]
      rw [shape]
      refine pairwise_cons.mpr ⟨forall_mem_cons.mpr ⟨valueBelow, ?_⟩, ascending⟩
      intro other member
      exact lt_trans valueBelow (headBelow other member)

/-- Dropping the largest entries keeps an ascending list ascending. -/
theorem Ascending.take
    (ascending : Ascending items)
    (capacity : Nat) :
    Ascending (items.take capacity) :=
  Pairwise.sublist (take_sublist capacity items) ascending

theorem Ascending.tail
    {head : α}
    {rest : List α}
    (ascending : Ascending (head :: rest)) :
    Ascending rest :=
  (pairwise_cons.mp ascending).2

/-- The head of an ascending list does not occur again. -/
theorem Ascending.head_not_mem
    {head : α}
    {rest : List α}
    (ascending : Ascending (head :: rest)) :
    head ∉ rest := by
  intro member
  exact lt_irrefl head ((pairwise_cons.mp ascending).1 head member)

end HouseGate.AscendingList
